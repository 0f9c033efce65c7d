import WorldQuery.Proofs.Query.Drift
import WorldQuery.Proofs.Query.Soundness
import WorldQuery.Proofs.Query.WireForm
import WorldQuery.Query.Response

/-!
# Answers follow their types

`TypedAnswer` relates a place of an answer to the type of its field, to what the resolver of the
field found and to the selections there: every leaf has the form of its scalar kind. Each object is
read from what was found, so a field can be compared with the record that it was decoded into:
`KeepsDecoded`. `execute_typed` says that the answer to every request is related to the root in this
way.
-/

namespace WorldQuery.Query

open Schema Success

/-- The datum of a field of a record is the value that was decoded, if the layout of the row and the
type of the field agree on a scalar kind and the wire carries the value. -/
def KeepsDecoded (source : Source) (f : FieldDef) (d : Datum) : Prop :=
  ∀ r absent row layout tag kind v, source = .record r →
    Storage.decodeRow absent row layout tag = .ok r → (Assoc.keys layout).Nodup →
    (f.name, .scalar kind) ∈ layout → f.type = .named kind.name → r.get? f.name = some v →
    Carried kind v → d = v.toDatum

mutual

/-- An answer in a place of a type, made of what was found there. -/
inductive TypedAnswer (x : Execution) : TypeExpr → Found → List Selection → Datum → Prop where
  | null {type : TypeExpr} {found : Found} {selections : List Selection} :
    TypedAnswer x type found selections .null
  | nonNull {inner : TypeExpr} {found : Found} {selections : List Selection} {d : Datum}
      (answers : TypedAnswer x inner found selections d) :
    TypedAnswer x (.nonNull inner) found selections d
  | list {item : TypeExpr} {items : List Found} {selections : List Selection} {ds : List Datum}
      (answers : TypedItems x item items selections ds) :
    TypedAnswer x (.list item) (.many items) selections (.list ds)
  | scalar {kind : Scalar} {v : Value} {selections : List Selection} {d : Datum}
      (form : WireForm kind d) : TypedAnswer x (.named kind.name) (.leaf v) selections d
  | enum {name enum description : String} {values : List (String × String)} {v : Value}
      {selections : List Selection} (not_scalar : Scalar.ofName? name = none)
      (lookup : x.schema.lookup name = some (.enum enum description values)) :
    TypedAnswer x (.named name) (.leaf v) selections v.toDatum
  | object {name type : String} {source : Source} {selections : List Selection} {owner : TypeDef}
      {g : Grouping} {fields : List (String × Datum)}
      (answered : AnsweredAs x.schema name source type) (lookup : x.schema.lookup type = some owner)
      (grouped : Grouping.ofSelections x.schema x.doc x.vars type selections = .ok g)
      (answers : TypedFields x owner source g fields) :
    TypedAnswer x (.named name) (.one source) selections (.object fields)
  /-- An object without fields has no leaf. -/
  | bare {name : String} {source : Source} {selections : List Selection} :
    TypedAnswer x (.named name) (.one source) selections (.object [])

inductive TypedItems (x : Execution) :
    TypeExpr → List Found → List Selection → List Datum → Prop where
  | nil {item : TypeExpr} {selections : List Selection} : TypedItems x item [] selections []
  | cons {item : TypeExpr} {found : Found} {items : List Found} {selections : List Selection}
      {d : Datum} {ds : List Datum} (first : TypedAnswer x item found selections d)
      (rest : TypedItems x item items selections ds) :
    TypedItems x item (found :: items) selections (d :: ds)

inductive TypedFields (x : Execution) :
    TypeDef → Source → Grouping → List (String × Datum) → Prop where
  | nil {owner : TypeDef} {source : Source} : TypedFields x owner source [] []
  /-- A name that is no field of the type has no answer. -/
  | skip {owner : TypeDef} {source : Source} {label : String} {uses : List FieldUse}
      {g : Grouping} {fields : List (String × Datum)}
      (no_field : ∀ use, uses.head? = some use → Schema.field? owner use.name = none)
      (rest : TypedFields x owner source g fields) :
    TypedFields x owner source ((label, uses) :: g) fields
  | failed {owner : TypeDef} {source : Source} {label : String} {uses : List FieldUse}
      {use : FieldUse} {f : FieldDef} {g : Grouping} {fields : List (String × Datum)}
      (used : uses.head? = some use) (field : Schema.field? owner use.name = some f)
      (keeps : KeepsDecoded source f .null) (rest : TypedFields x owner source g fields) :
    TypedFields x owner source ((label, uses) :: g) ((label, .null) :: fields)
  | found {owner : TypeDef} {source : Source} {label : String} {uses : List FieldUse}
      {use : FieldUse} {f : FieldDef} {args : Variables} {round : Nat} {result : Found}
      {d : Datum} {g : Grouping} {fields : List (String × Datum)}
      (used : uses.head? = some use) (field : Schema.field? owner use.name = some f)
      (arguments : argumentValues x.schema x.vars f.args use.arguments = .ok args)
      (resolved : (resolve x.schema x.store? owner.name source round args f.resolver).result =
        .ok result)
      (answers : TypedAnswer x f.type result (uses.flatMap (·.selections)) d)
      (keeps : KeepsDecoded source f d) (rest : TypedFields x owner source g fields) :
    TypedFields x owner source ((label, uses) :: g) ((label, d) :: fields)

end

theorem Outcome.data_at (type : TypeExpr) (o : Outcome) : (o.at type).data = o.data := by
  unfold Outcome.at
  split_ifs <;> simp [data]

section Completion

variable {x : Execution} {round : Nat} {selections : List Selection}
  {answer : String → Source → Outcome}

theorem leafOutcome_typed (name : String) (v : Value) :
    TypedAnswer x (.named name) (.leaf v) selections (leafOutcome x.schema round name v).data := by
  unfold leafOutcome
  split
  · next kind hkind =>
    obtain rfl : name = kind.name := by
      have hname := List.find?_some hkind
      exact (beq_iff_eq.mp hname).symm
    split
    · next out hout => exact .scalar (outputAsScalar_wireForm hout)
    · exact .null
  · next hkind =>
    split
    · next hlookup => exact .enum hkind hlookup
    · exact .null

theorem objectOutcome_typed {name : String} {source : Source}
    (h : ∀ type, AnsweredAs x.schema name source type →
      TypedAnswer x (.named name) (.one source) selections (answer type source).data) :
    TypedAnswer x (.named name) (.one source) selections
      (objectOutcome x.schema round answer name source).data := by
  unfold objectOutcome
  split
  · next hlookup => exact h name (.object hlookup)
  · next hlookup =>
    split
    · next member hmember => exact h member (.member hlookup hmember)
    · exact .null
  · exact .null

theorem typedItems_dataOf {item : TypeExpr} {items : List Found} {outcome : Found → Outcome}
    (h : ∀ found ∈ items, TypedAnswer x item found selections (outcome found).data) :
    TypedItems x item items selections (Outcome.dataOf (items.map outcome)) := by
  induction items with
  | nil => exact .nil
  | cons found items ih =>
    obtain ⟨hfirst, hrest⟩ := List.forall_mem_cons.mp h
    exact .cons hfirst (ih hrest)

/-- What a field found is completed as an answer if every object in it is answered. -/
theorem complete_typed {owner field : String} {type : TypeExpr} {found : Found}
    (h : ∀ source type', found.Has source → AnsweredAs x.schema type.base source type' →
      TypedAnswer x (.named type.base) (.one source) selections (answer type' source).data) :
    TypedAnswer x type found selections
      (complete x.schema round owner field answer type found).data := by
  induction type generalizing found with
  | named name =>
    cases found with
    | nothing => exact .null
    | leaf v => exact leafOutcome_typed name v
    | one source => exact objectOutcome_typed fun type' => h source type' (.one source)
    | many items => exact .null
  | list item ih =>
    cases found with
    | many items =>
      rw [complete, Outcome.data]
      split_ifs
      · exact .null
      · exact .list (typedItems_dataOf fun found hfound =>
          ih fun source type' hhas => h source type' (.many hfound hhas))
    | nothing | leaf | one => exact .null
  | nonNull inner ih =>
    cases found with
    | nothing => exact .null
    | leaf | one | many => exact .nonNull (ih h)

end Completion

section Fields

variable {found : List (String × Layout)} {tablePrefix : String} {schema : Schema} {s : Store}
  {owner : TypeDef} {source : Source} {f : FieldDef}

theorem Fits.not_mem_metaNames {type : String} {r : Record}
    (h : Fits s tablePrefix type (.record r)) : type ∉ metaNames := by
  have hmeta : ∀ name ∈ metaNames, name ≠ Component.typeName ∧ '_' ∈ name.toList := by
    decide +kernel
  intro hmem
  obtain ⟨hcomponent, hunderscore⟩ := hmeta type hmem
  have howned := h.2
  rw [if_neg hcomponent] at howned
  obtain ⟨-, id, name, owner, t, row, layout, -, rfl, -⟩ := howned
  rw [Name.typeName, String.toList_ofList] at hunderscore
  exact Name.underscore_not_mem_typeChars name.toList hunderscore

theorem exists_eq_value (h : Shaped found tablePrefix schema)
    (howner : schema.lookup owner.name = some owner) (hmeta : owner.name ∉ metaNames)
    {name : String} (hf : Schema.field? owner name = some f) {kind : Scalar}
    (htype : f.type = .named kind.name) :
    ∃ description, f = ⟨f.name, .named kind.name, [], description, .value f.name⟩ := by
  have hmem : f ∈ owner.fields := mem_fields_of_scalar hf htype
  have hschema : owner ∈ schema.types :=
    (mem_of_lookup howner).2.resolve_right fun hdescribes => hmeta (mem_metaTypes hdescribes).1
  have hobject : owner.isObject = true := by
    cases owner <;> simp [TypeDef.fields, TypeDef.isObject] at hmem ⊢
  rcases mem_objectTypes.mp (h.assembled.mem_objects.mpr ⟨hschema, hobject⟩) with
    rfl | ⟨entry, hentry, rfl⟩ | rfl
  · rcases List.mem_append.mp hmem with hmem | hmem
    · obtain ⟨⟨field, kind' | target⟩, -, hfield⟩ := List.mem_filterMap.mp hmem
      · obtain rfl := Option.some.inj hfield
        exact ⟨"", by rw [← htype]⟩
      · simp [scalarField?] at hfield
    · split_ifs at hmem
      · simp at hmem
      · obtain rfl := List.mem_singleton.mp hmem
        have hname : ObjectDef.storageUnion = kind.name := TypeExpr.named.inj htype
        exact absurd (hname ▸ name_mem_scalarNames kind) (by decide)
  · exact ⟨"", eq_value_of_scalar h hentry hf htype⟩
  · rcases List.mem_pair.mp hmem with rfl | rfl
    · have hname : Component.typeName = kind.name := TypeExpr.named.inj htype
      exact absurd (hname ▸ name_mem_scalarNames kind) (by decide)
    · simp at htype

variable {doc : Document} {vars : Variables} {round : Nat} {uses : List FieldUse} {o : Outcome}
  {answer : Nat → List Selection → String → Source → Outcome}

theorem field?_eq_none_of_answerField {x : Execution}
    (h : answerField x answer owner source round uses = none) :
    ∀ use, uses.head? = some use → Schema.field? owner use.name = none := by
  intro use huse
  unfold answerField at h
  rw [huse, Option.bind_eq_bind, Option.bind_some] at h
  cases hf : Schema.field? owner use.name with
  | none => rfl
  | some f =>
    rw [hf, Option.bind_eq_bind, Option.bind_some] at h
    split at h
    · cases h
    · dsimp only at h
      split at h <;> cases h

theorem keepsDecoded_of_answerField (h : Shaped found tablePrefix schema)
    (hfits : Fits s tablePrefix owner.name source) (howner : schema.lookup owner.name = some owner)
    {use : FieldUse} (huse : uses.head? = some use) (hf : Schema.field? owner use.name = some f)
    (ho : answerField ⟨schema, doc, vars, some s⟩ answer owner source round uses = some o) :
    KeepsDecoded source f o.data := by
  rintro r absent row layout tag kind v rfl hdecode hnodup hentry htype hget hcarried
  obtain ⟨description, heq⟩ := exists_eq_value h howner hfits.not_mem_metaNames hf htype
  rw [heq] at hf
  by_cases hv : v = .null
  · subst hv
    rw [answerField_null huse hf hget] at ho
    obtain rfl := Option.some.inj ho
    rfl
  · obtain ⟨v', hget', hnull | ⟨d, hd⟩⟩ := Storage.coerced_of_decodeRow hnodup hdecode hentry
    · rw [hget] at hget'
      exact absurd ((Option.some.inj hget').trans hnull) hv
    · obtain rfl : v = v' := Option.some.inj (hget.symm.trans hget')
      rw [answerField_scalar huse hf hget hv, scalarOutcome, outputAsScalar_of_coerce hd hcarried]
        at ho
      obtain rfl := Option.some.inj ho
      rfl

/-- The objects that a schema answers further down fit their types, and are answered so. -/
def AnswersFitting (s : Store) (tablePrefix : String) (x : Execution)
    (answer : Nat → List Selection → String → Source → Outcome) : Prop :=
  ∀ round selections name type source, AnsweredAs x.schema name source type →
    Fits s tablePrefix type source →
    TypedAnswer x (.named name) (.one source) selections (answer round selections type source).data

theorem answerField_typed (h : Shaped found tablePrefix schema)
    (hfits : Fits s tablePrefix owner.name source) (howner : schema.lookup owner.name = some owner)
    (hanswer : AnswersFitting s tablePrefix ⟨schema, doc, vars, some s⟩ answer) (label : String)
    {g : Grouping} {fields : List (String × Datum)}
    (ho : answerField ⟨schema, doc, vars, some s⟩ answer owner source round uses = some o)
    (hrest : TypedFields ⟨schema, doc, vars, some s⟩ owner source g fields) :
    TypedFields ⟨schema, doc, vars, some s⟩ owner source ((label, uses) :: g)
      ((label, o.data) :: fields) := by
  have hfound := ho
  unfold answerField at hfound
  obtain ⟨use, huse, hfound⟩ := Option.bind_eq_some_iff.mp hfound
  obtain ⟨f, hf, hfound⟩ := Option.bind_eq_some_iff.mp hfound
  have hkeeps := keepsDecoded_of_answerField h hfits howner huse hf ho
  split at hfound
  · obtain rfl := Option.some.inj hfound
    rw [Outcome.data_at] at hkeeps ⊢
    exact .failed huse hf hkeeps hrest
  · next args hargs =>
    dsimp only at hfound
    split at hfound
    · obtain rfl := Option.some.inj hfound
      rw [Outcome.data_at] at hkeeps ⊢
      exact .failed huse hf hkeeps hrest
    · next result hresult =>
      obtain rfl := Option.some.inj hfound
      refine .found huse hf hargs hresult (complete_typed ?_) hkeeps hrest
      intro source' type' hhas hanswered
      exact hanswer _ _ _ _ _ hanswered (resolve_fits h hfits howner hf hresult hhas hanswered)

theorem answerFields_typed (h : Shaped found tablePrefix schema)
    (hfits : Fits s tablePrefix owner.name source) (howner : schema.lookup owner.name = some owner)
    (hanswer : AnswersFitting s tablePrefix ⟨schema, doc, vars, some s⟩ answer) (g : Grouping) :
    TypedFields ⟨schema, doc, vars, some s⟩ owner source g
      (Outcome.dataIn (answerFields ⟨schema, doc, vars, some s⟩ answer owner source round g)) := by
  induction g with
  | nil => exact .nil
  | cons entry g ih =>
    obtain ⟨label, uses⟩ := entry
    unfold answerFields at ih ⊢
    cases ho : answerField ⟨schema, doc, vars, some s⟩ answer owner source round uses with
    | none =>
      simp only [List.filterMap_cons, ho, Option.map_none]
      exact .skip (field?_eq_none_of_answerField ho) ih
    | some o =>
      simp only [List.filterMap_cons, ho, Option.map_some]
      exact answerField_typed h hfits howner hanswer label ho ih

/-- By induction on the depth that is left, an object that fits its type is answered as its type
says. -/
theorem answerObject_typed (h : Shaped found tablePrefix schema) (room : Nat) :
    AnswersFitting s tablePrefix ⟨schema, doc, vars, some s⟩
      (answerObject ⟨schema, doc, vars, some s⟩ room) := by
  induction room with
  | zero =>
    intro round selections name type source hanswered hfits
    exact .bare
  | succ room ih =>
    intro round selections name type source hanswered hfits
    unfold answerObject
    split
    · exact .bare
    · next owner howner =>
      have hname : owner.name = type := (mem_of_lookup howner).1
      subst hname
      split
      · exact .null
      · next g hg =>
        rw [Outcome.data]
        split_ifs
        · exact .null
        · exact .object hanswered howner hg (answerFields_typed h hfits howner ih g)

theorem run_typed (h : Shaped found tablePrefix schema) (s : Store) (doc : Document)
    (vars : Variables) (selections : List Selection) :
    TypedAnswer ⟨schema, doc, vars, some s⟩ (.named queryType) (.one .root) selections
      (Execution.run ⟨schema, doc, vars, some s⟩ selections).data := by
  have hroot : AnsweredAs schema queryType .root queryType := .object (lookup_root h)
  have hfits : Fits s tablePrefix queryType .root := rfl
  exact answerObject_typed h _ _ _ _ _ _ hroot hfits

end Fields

theorem data_ofOutcome (o : Outcome) :
    (Response.ofOutcome o).data = .null ∨ (Response.ofOutcome o).data = o.data := by
  cases o with
  | failed => exact Or.inl rfl
  | leaf | items | object | required => exact Or.inr rfl

theorem executeOperation_typed {found : List (String × Layout)} {tablePrefix : String}
    {schema : Schema} (h : Shaped found tablePrefix schema) (s : Store) (doc : Document)
    (op : Operation) (given : Variables) :
    (executeOperation schema (some s) doc op given).data = .null ∨
      ∃ vars, variableValues schema op.declared given = some vars ∧
        TypedAnswer ⟨schema, doc, vars, some s⟩ (.named queryType) (.one .root) op.selections
          (executeOperation schema (some s) doc op given).data := by
  unfold executeOperation
  split
  · exact Or.inl rfl
  · next vars hvars =>
    split
    · refine (data_ofOutcome _).imp_right fun hdata => ⟨vars, hvars, ?_⟩
      rw [hdata]
      exact run_typed h s doc vars op.selections
    · exact Or.inl rfl

/-- The answer of a schema of a store to a request, on any later store: every leaf has the form of
its kind, and a field whose kind is that of the layout of its row keeps the decoded value. -/
theorem execute_typed {built : Store} {tablePrefix : String} {schema : Schema}
    (h : Schema.ofStore built tablePrefix = .ok schema) (s : Store) (request : Request) :
    (execute schema (some s) request).data = .null ∨
      ∃ doc op vars, request.text?.bind Document.read = some doc ∧
        doc.chosen request.operation? = some op ∧
        variableValues schema op.declared request.inputs = some vars ∧
        TypedAnswer ⟨schema, doc, vars, some s⟩ (.named queryType) (.one .root) op.selections
          (execute schema (some s) request).data := by
  obtain ⟨-, found, -, -, hshaped⟩ := ofStore_shaped h
  unfold execute
  split
  · exact Or.inl rfl
  · next doc hdoc =>
    dsimp only
    split_ifs
    · split
      · exact Or.inl rfl
      · next op hop =>
        refine (executeOperation_typed hshaped s doc op request.inputs).imp_right ?_
        rintro ⟨vars, hvars, htyped⟩
        exact ⟨doc, op, vars, hdoc, hop, hvars, htyped⟩
    · exact Or.inl rfl

/-- A field element that was stored as a number goes out as a canonical text. -/
theorem execute_typed_felt :
    let built := Store.empty.create "components" Component.columns
      [[.text "0x1", .text "Position", .text "0x9", .text "0x8", .text "0x7", .text "x: Felt",
        .int 1]]
    let s := built.create "storage_position" ["component_id", "x"] [[.text "0x1", .int 31]]
    let text := "\x7b component(id: \"0x1\") \x7b storage \x7b ...on Position \x7bx\x7d\x7d\x7d\x7d"
    let request : Request := ⟨some text, [], none⟩
    ∃ schema doc op vars, Schema.ofStore built "storage_" = .ok schema ∧
      (execute schema (some s) request).data.shown =
        "\x7b'component': \x7b'storage': \x7b'x': '0x1f'\x7d\x7d\x7d" ∧
      Document.read text = some doc ∧ doc.chosen none = some op ∧
      TypedAnswer ⟨schema, doc, vars, some s⟩ (.named queryType) (.one .root) op.selections
        (execute schema (some s) request).data := by
  intro built s text request
  have hshown : ((Schema.ofStore built "storage_").toOption.map fun schema =>
      (execute schema (some s) request).data.shown) =
        some "\x7b'component': \x7b'storage': \x7b'x': '0x1f'\x7d\x7d\x7d" := by
    decide +kernel
  cases hschema : Schema.ofStore built "storage_" with
  | error fault => simp [hschema, Except.toOption] at hshown
  | ok schema =>
    replace hshown : (execute schema (some s) request).data.shown =
        "\x7b'component': \x7b'storage': \x7b'x': '0x1f'\x7d\x7d\x7d" := by
      simpa [hschema, Except.toOption] using hshown
    rcases execute_typed hschema s request with hnull | ⟨doc, op, vars, hdoc, hop, -, htyped⟩
    · rw [hnull] at hshown
      exact absurd hshown (by decide)
    · exact ⟨schema, doc, op, vars, rfl, hshown, hdoc, hop, htyped⟩

end WorldQuery.Query
