import WorldQuery.Proofs.Assoc
import WorldQuery.Proofs.Success
import WorldQuery.Query.Execution

/-!
# Answers of single fields

The answer of an object is put together from those of its fields: as long as none of them breaks
through, `Outcome.data_object` and `Outcome.faults_object` say that a fault in one field leaves the
others alone.
-/

namespace WorldQuery.Query

open Success

namespace Outcome

variable {type : String} {source : Source} {fields : List (String × Outcome)}

theorem dataIn_eq (fields : List (String × Outcome)) :
    dataIn fields = fields.map fun field => (field.1, field.2.data) := by
  induction fields with
  | nil => rfl
  | cons field rest ih =>
    rw [dataIn, ih]
    rfl

theorem breachInside_eq_none (h : ∀ field ∈ fields, field.2.breaks = false) :
    breachInside fields = none := by
  induction fields with
  | nil => rfl
  | cons field rest ih =>
    obtain ⟨label, o⟩ := field
    have hrest := ih fun field hfield => h field (List.mem_cons_of_mem _ hfield)
    have hfirst := h _ List.mem_cons_self
    cases o with
    | required inner =>
      have hinner : inner.breach = none := by simpa [breaks] using hfirst
      rw [breachInside, hinner, hrest]
      rfl
    | leaf d => exact hrest
    | failed fault round => exact hrest
    | items outcomes => exact hrest
    | object type source fields => exact hrest

/-- An object of which no field breaks through answers with all of its fields. -/
theorem data_object (h : ∀ field ∈ fields, field.2.breaks = false) :
    (object type source fields).data =
      .object (fields.map fun field => (field.1, field.2.data)) := by
  rw [data, breachInside_eq_none h, dataIn_eq]
  rfl

theorem faults_object (h : ∀ field ∈ fields, field.2.breaks = false) (path : List PathStep) :
    (object type source fields).faults path =
      fields.flatMap fun field => field.2.faults (path ++ [.key field.1]) := by
  rw [faults]
  induction fields with
  | nil => rfl
  | cons field rest ih =>
    rw [faultsIn, h field List.mem_cons_self, List.flatMap_cons,
      ih fun field hfield => h field (List.mem_cons_of_mem _ hfield)]
    simp

/-! ### Items -/

theorem breachAmong_eq_none {xs : List Outcome} (h : ∀ x ∈ xs, x.breaks = false) :
    breachAmong xs = none := by
  induction xs with
  | nil => rfl
  | cons x rest ih =>
    have hrest := ih fun x hx => h x (List.mem_cons_of_mem _ hx)
    have hfirst := h x List.mem_cons_self
    cases x with
    | required inner =>
      have hinner : inner.breach = none := by simpa [breaks] using hfirst
      rw [breachAmong, hinner, hrest]
      rfl
    | leaf d => exact hrest
    | failed fault round => exact hrest
    | items outcomes => exact hrest
    | object type source fields => exact hrest

theorem data_items {xs : List Outcome} (h : ∀ x ∈ xs, x.breaks = false) :
    (items xs).data = .list (xs.map data) := by
  have hdata : ∀ xs : List Outcome, dataOf xs = xs.map data := by
    intro xs
    induction xs with
    | nil => rfl
    | cons x rest ih => rw [dataOf, ih, List.map_cons]
  rw [data, breachAmong_eq_none h, hdata]
  rfl

theorem faults_items {xs : List Outcome} (h : ∀ x ∈ xs, x.breaks = false) (path : List PathStep) :
    (items xs).faults path = xs.zipIdx.flatMap fun (x, i) => x.faults (path ++ [.index i]) := by
  rw [faults]
  generalize 0 = start
  induction xs generalizing start with
  | nil => rfl
  | cons x rest ih =>
    rw [faultsOf, h x List.mem_cons_self, ih fun x hx => h x (List.mem_cons_of_mem _ hx)]
    simp

end Outcome

/-! ### Faults below a path -/

def PlacedFault.below (path : List PathStep) (f : PlacedFault) : PlacedFault :=
  { f with path := path ++ f.path }

mutual

theorem Outcome.faults_append (start path : List PathStep) : ∀ o : Outcome,
    o.faults (start ++ path) = (o.faults path).map (.below start)
  | .leaf _ => rfl
  | .failed _ _ => rfl
  | .items xs => Outcome.faultsOf_append start path xs 0
  | .object _ _ fields => Outcome.faultsIn_append start path fields
  | .required inner => Outcome.faults_append start path inner

theorem Outcome.faultsOf_append (start path : List PathStep) : ∀ (xs : List Outcome) (i : Nat),
    Outcome.faultsOf (start ++ path) i xs = (Outcome.faultsOf path i xs).map (.below start)
  | [], _ => rfl
  | x :: rest, i => by
    rw [Outcome.faultsOf, Outcome.faultsOf, List.append_assoc, Outcome.faults_append start _ x,
      Outcome.faultsOf_append start path rest, List.map_append]
    split <;> rfl

theorem Outcome.faultsIn_append (start path : List PathStep) : ∀ fields : List (String × Outcome),
    Outcome.faultsIn (start ++ path) fields = (Outcome.faultsIn path fields).map (.below start)
  | [] => rfl
  | (label, x) :: rest => by
    rw [Outcome.faultsIn, Outcome.faultsIn, List.append_assoc, Outcome.faults_append start _ x,
      Outcome.faultsIn_append start path rest, List.map_append]
    split <;> rfl

end

theorem extractText_eq_ok_iff {r : Record} {field text : String} :
    r.extractText field = .ok text ↔ r.get? field = some (.text text) := by
  have hextract : r.extractText field = .ok text ↔
      r.extract field (.kind .text) = .ok (.text text) := by
    rw [Record.extract_text, map_eq_ok_iff]
    simp
  rw [hextract, Record.extract]
  cases r.get? field with
  | none => simp
  | some v => cases v <;> simp [Value.kind]

theorem askStorage_eq_ok_iff {known : List String} {tablePrefix : String} {r : Record}
    {q : Question} :
    Resolver.askStorage known tablePrefix r = .ok q ↔
      ∃ id name definition layout, q = .storage tablePrefix id name layout ∧
        r.get? "id" = some (.text id) ∧ r.get? "name" = some (.text name) ∧
        r.get? "storageDefinition" = some (.text definition) ∧
        Layout.read known name definition = .ok layout := by
  unfold Resolver.askStorage Resolver.text
  simp only [bind_eq_ok_iff, mapError_eq_ok_iff, extractText_eq_ok_iff, pure_eq_ok_iff]
  constructor
  · rintro ⟨id, hid, definition, hdefinition, name, hname, layout, hlayout, rfl⟩
    exact ⟨id, name, definition, layout, rfl, hid, hname, hdefinition, hlayout⟩
  · rintro ⟨id, name, definition, layout, rfl, hid, hname, hdefinition, hlayout⟩
    exact ⟨id, hid, definition, hdefinition, name, hname, layout, hlayout, rfl⟩

section Fields

variable {x : Execution} {answer : Nat → List Selection → String → Source → Outcome}
  {owner : TypeDef} {source : Source} {round round' : Nat} {uses : List FieldUse} {use : FieldUse}
  {f : FieldDef}

theorem answerField_of_ok (huse : uses.head? = some use)
    (hf : Schema.field? owner use.name = some f) (hargs : f.args = []) {found : Found}
    (hresolve : resolve x.schema x.store? owner.name source round [] f.resolver =
      ⟨.ok found, round'⟩) :
    answerField x answer owner source round uses =
      some (complete x.schema round' owner.name f.name
        (answer round' (uses.flatMap (·.selections))) f.type found) := by
  have harguments : argumentValues x.schema x.vars f.args use.arguments = .ok [] := by
    rw [hargs]
    rfl
  unfold answerField
  simp only [huse, hf, harguments, hresolve, Option.bind_eq_bind, Option.bind_some]
  rfl

theorem answerField_of_error (huse : uses.head? = some use)
    (hf : Schema.field? owner use.name = some f) (hargs : f.args = []) {fault : AnswerFault}
    (hresolve : resolve x.schema x.store? owner.name source round [] f.resolver =
      ⟨.error fault, round'⟩) :
    answerField x answer owner source round uses =
      some (Outcome.at f.type (.failed fault round')) := by
  have harguments : argumentValues x.schema x.vars f.args use.arguments = .ok [] := by
    rw [hargs]
    rfl
  unfold answerField
  simp only [huse, hf, harguments, hresolve, Option.bind_eq_bind, Option.bind_some]
  rfl

/-! ### Values of a record -/

def scalarOutcome (round : Nat) (kind : Scalar) (v : Value) : Outcome :=
  match outputAsScalar kind v with
  | .ok out => .leaf out.toDatum
  | .error fault => .failed (.leaf fault) round

theorem leafOutcome_name (s : Schema) (round : Nat) (kind : Scalar) (v : Value) :
    leafOutcome s round kind.name v = scalarOutcome round kind v := by
  have hkind : Scalar.ofName? kind.name = some kind := by
    cases kind <;> decide
  cases hout : outputAsScalar kind v <;> simp [leafOutcome, scalarOutcome, hkind, hout]

section Values

variable {r : Record} {field : String} {kind : Scalar} {description : String}

theorem resolve_value_of_none (s : Schema) (store? : Option Store) (owner : String) (round : Nat)
    (hget : r.get? field = none) :
    resolve s store? owner (.record r) round [] (.value field) =
      ⟨.error (.fetch (.record (.missing field))), round⟩ := by
  simp [resolve, Resolver.inquire, Resolver.fetches, hget]

theorem resolve_value_of_some (s : Schema) (store? : Option Store) (owner : String) (round : Nat)
    {v : Value} (hget : r.get? field = some v) :
    resolve s store? owner (.record r) round [] (.value field) = ⟨.ok (.ofValue v), round⟩ := by
  simp [resolve, Resolver.inquire, Resolver.fetches, hget]

variable (huse : uses.head? = some use)
  (hf : Schema.field? owner use.name =
    some ⟨field, .named kind.name, [], description, .value field⟩)

include huse hf

theorem answerField_missing (hget : r.get? field = none) :
    answerField x answer owner (.record r) round uses =
      some (.failed (.fetch (.record (.missing field))) round) := by
  rw [answerField_of_error huse hf rfl (resolve_value_of_none _ _ _ _ hget)]
  rfl

theorem answerField_null (hget : r.get? field = some .null) :
    answerField x answer owner (.record r) round uses = some (.leaf .null) := by
  rw [answerField_of_ok huse hf rfl (resolve_value_of_some _ _ _ _ hget)]
  rfl

theorem answerField_scalar {v : Value} (hget : r.get? field = some v) (hv : v ≠ .null) :
    answerField x answer owner (.record r) round uses = some (scalarOutcome round kind v) := by
  have hleaf : Found.ofValue v = .leaf v := by
    cases v <;> simp [Found.ofValue] at hv ⊢
  rw [answerField_of_ok huse hf rfl (resolve_value_of_some _ _ _ _ hget), hleaf,
    ← leafOutcome_name]
  rfl

end Values

/-! ### Questions of a record -/

section Questions

variable {r : Record} {field description : String}

theorem answerField_missing_reference {type target tablePrefix : String} {known : List String}
    (huse : uses.head? = some use)
    (hf : Schema.field? owner use.name = some
      ⟨field, .named type, [], description, .reference field target known tablePrefix⟩)
    (hget : r.get? field = none) :
    answerField x answer owner (.record r) round uses =
      some (.failed (.fetch (.record (.missing field))) (max round 1)) := by
  have hresolve : resolve x.schema x.store? owner.name (.record r) round []
      (.reference field target known tablePrefix) =
        ⟨.error (.fetch (.record (.missing field))), max round 1⟩ := by
    simp [resolve, Resolver.inquire, Resolver.fetches, Resolver.askReference, hget, Except.mapError]
  rw [answerField_of_error huse hf rfl hresolve]
  rfl

/-- The question for the storage of a component record goes to the store with what the record says
of itself. -/
theorem resolve_storage_of_texts (schema : Schema) (s : Store) (owner : String) (round : Nat)
    {known : List String} {tablePrefix id name definition : String} {layout : Layout}
    (hid : r.get? "id" = some (.text id)) (hname : r.get? "name" = some (.text name))
    (hdefinition : r.get? "storageDefinition" = some (.text definition))
    (hlayout : Layout.read known name definition = .ok layout) :
    resolve schema (some s) owner (.record r) round [] (.storage known tablePrefix) =
      ⟨((Storage.byColumn s tablePrefix Storage.ownerColumn id name layout).map
        Found.ofRecord?).mapError .fetch, max round 1 + 1⟩ := by
  have hask : Resolver.askStorage known tablePrefix r =
      .ok (.storage tablePrefix id name layout) :=
    askStorage_eq_ok_iff.mpr ⟨id, name, definition, layout, rfl, hid, hname, hdefinition, hlayout⟩
  simp [resolve, Resolver.inquire, Resolver.fetches, hask, Except.map, Except.mapError,
    Question.answer]

end Questions

/-! ### Results of resolvers -/

theorem result_resolve (s : Schema) (store? : Option Store) (owner : String) (args : Variables)
    (resolver : Resolver) :
    (resolve s store? owner source round args resolver).result =
      (resolve s store? owner source round' args resolver).result := by
  unfold resolve
  cases resolver.inquire s owner source args with
  | error fault => rfl
  | ok inquiry =>
    cases inquiry with
    | found found => rfl
    | ask q => cases store? <;> rfl

/-- What the resolver of a field of a type finds, if the schema has the field. -/
def fieldResult? (s : Schema) (store : Store) (type field : String) (source : Source)
    (args : Variables) : Option (Except AnswerFault Found) := do
  let owner ← s.lookup type
  let f ← Schema.field? owner field
  return (resolve s (some store) type source 0 args f.resolver).result

/-- It does not matter to it in which round the resolver is asked. -/
theorem fieldResult?_of_field? {s : Schema} {store : Store} {type field : String}
    {args : Variables} (howner : s.lookup type = some owner)
    (hf : Schema.field? owner field = some f) (round : Nat) :
    fieldResult? s store type field source args =
      some (resolve s (some store) type source round args f.resolver).result := by
  have hround : (resolve s (some store) type source round args f.resolver).result =
      (resolve s (some store) type source 0 args f.resolver).result :=
    result_resolve s (some store) type args f.resolver
  simp [fieldResult?, howner, hf, hround]

/-! ### Breaking through -/

theorem breaks_answerObject (room : Nat) (selections : List Selection) (type : String) :
    (answerObject x room round selections type source).breaks = false := by
  cases room with
  | zero => rfl
  | succ room =>
    unfold answerObject
    split
    · rfl
    · split <;> rfl

theorem breaks_complete {s : Schema} {name label : String} {answer : String → Source → Outcome}
    (hanswer : ∀ type source, (answer type source).breaks = false) (type : String) (found : Found) :
    (complete s round name label answer (.named type) found).breaks = false := by
  cases found with
  | nothing => rfl
  | leaf v =>
    unfold complete leafOutcome
    split
    · split <;> rfl
    · split <;> rfl
  | one source =>
    unfold complete objectOutcome
    split
    · exact hanswer _ _
    · split
      · exact hanswer _ _
      · rfl
    · rfl
  | many items => rfl

theorem breaks_answerField (hanswer : ∀ round selections type source,
      (answer round selections type source).breaks = false) {type : String}
    (hf : Schema.field? owner use.name = some f) (htype : f.type = .named type)
    (huse : uses.head? = some use) {o : Outcome}
    (h : answerField x answer owner source round uses = some o) : o.breaks = false := by
  unfold answerField at h
  simp only [huse, hf, htype, Option.bind_eq_bind, Option.bind_some] at h
  split at h
  · obtain rfl := Option.some.inj h
    rfl
  · split at h
    · obtain rfl := Option.some.inj h
      rfl
    · obtain rfl := Option.some.inj h
      exact breaks_complete (fun _ _ => hanswer _ _ _ _) _ _

theorem breaks_answerField_typeName (huse : uses.head? = some use)
    (hf : Schema.field? owner use.name = some Meta.typeNameField) {o : Outcome}
    (h : answerField x answer owner source round uses = some o) : o.breaks = false := by
  have hresolve : resolve x.schema x.store? owner.name source round []
      Meta.typeNameField.resolver = ⟨.ok (.leaf (.text owner.name)), round⟩ := by
    simp [resolve, Resolver.inquire, Resolver.fetches, Resolver.askMeta, Meta.typeNameField]
  rw [answerField_of_ok huse hf rfl hresolve] at h
  obtain rfl := Option.some.inj h
  rfl

/-- No field of a type breaks through if all fields of it have named types. -/
theorem breaks_of_named {room : Nat} (hquery : owner.name ≠ queryType)
    (hnamed : ∀ f ∈ owner.fields, ∃ type, f.type = .named type) {o : Outcome}
    (ho : answerField x (answerObject x room) owner source round uses = some o) :
    o.breaks = false := by
  have hanswer : ∀ round selections type source,
      (answerObject x room round selections type source).breaks = false :=
    fun _ selections type _ => breaks_answerObject room selections type
  have hhead := ho
  unfold answerField at hhead
  obtain ⟨use, huse, hhead⟩ := Option.bind_eq_some_iff.mp hhead
  obtain ⟨f, hf, -⟩ := Option.bind_eq_some_iff.mp hhead
  have hfield := hf
  unfold Schema.field? at hfield
  split_ifs at hfield with hschema htype htypeName
  · exact absurd hschema.2 hquery
  · exact absurd htype.2 hquery
  · rw [← hfield] at hf
    exact breaks_answerField_typeName huse hf ho
  · obtain ⟨type, htype⟩ := hnamed f (List.mem_of_find?_eq_some hfield)
    exact breaks_answerField hanswer hf htype huse ho

theorem answerObject_of_named {room : Nat} {selections : List Selection} {type : String}
    {g : Grouping} (howner : x.schema.lookup type = some owner) (hquery : owner.name ≠ queryType)
    (hnamed : ∀ f ∈ owner.fields, ∃ type, f.type = .named type)
    (hg : Grouping.ofSelections x.schema x.doc x.vars type selections = .ok g) :
    answerObject x (room + 1) round selections type source =
        .object type source (answerFields x (answerObject x room) owner source round g) ∧
      ∀ field ∈ answerFields x (answerObject x room) owner source round g,
        field.2.breaks = false := by
  constructor
  · simp only [answerObject, howner, hg]
  · intro field hfield
    obtain ⟨⟨label, uses⟩, -, hfield⟩ := List.mem_filterMap.mp hfield
    obtain ⟨outcome, houtcome, rfl⟩ := Option.map_eq_some_iff.mp hfield
    exact breaks_of_named hquery hnamed houtcome

theorem breach_of_named {room : Nat} {selections : List Selection} {type : String}
    {g : Grouping} (howner : x.schema.lookup type = some owner) (hquery : owner.name ≠ queryType)
    (hnamed : ∀ f ∈ owner.fields, ∃ type, f.type = .named type)
    (hg : Grouping.ofSelections x.schema x.doc x.vars type selections = .ok g) :
    (answerObject x (room + 1) round selections type source).breach = none := by
  obtain ⟨hobject, hbreaks⟩ := answerObject_of_named howner hquery hnamed hg
  rw [hobject]
  exact Outcome.breachInside_eq_none hbreaks

end Fields

end WorldQuery.Query
