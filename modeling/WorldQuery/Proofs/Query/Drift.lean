import WorldQuery.Proofs.Query.Fields
import WorldQuery.Proofs.Schema.Lookup
import WorldQuery.Proofs.Storage.Decoding

/-!
# Records read by their own layouts

The storage record of a component is decoded by the definition of the component, while the fields
that are selected, and the kinds that they go out as, are those of the schema. The two may differ in
any way. `AnswersStorage` is what comes out then, field by field, and `answerField_storage` says
that the field of components for their storage answers so.
-/

namespace WorldQuery.Query

open Name Schema Success

/-- What the selected fields of a type answer, read from a row that is decoded by a layout. -/
structure AnswersFields (layout : Layout) (t : Table) (row : StoredRow) (type : TypeDef)
    (round : Nat) (answered : List FieldUse → Option Outcome) : Prop where
  missing : ∀ uses use f, uses.head? = some use → Schema.field? type use.name = some f →
    f ∈ type.fields → f.name ∉ Assoc.keys layout →
      answered uses = some (.failed (.fetch (.record (.missing f.name))) round)
  null : ∀ uses use f kind, uses.head? = some use → Schema.field? type use.name = some f →
    f.type = .named (Scalar.name kind) → f.name ∈ Assoc.keys layout →
    t.datum row f.name = .null → answered uses = some (.leaf .null)
  scalar : ∀ uses use f kind own v, uses.head? = some use → Schema.field? type use.name = some f →
    f.type = .named (Scalar.name kind) → (f.name, own) ∈ layout → t.datum row f.name ≠ .null →
    Storage.decodeDatum f.name own (t.datum row f.name) = .ok v →
      answered uses = some (scalarOutcome round kind v)

/-- What the storage of an id answers, read from a table by a layout. A fault in place of the record
is the only one, and the faults of its fields stay in their places. -/
structure AnswersStorage (x : Execution) (layout : Layout) (t : Table) (id type : String)
    (round : Nat) (selections : List Selection) (o : Outcome) : Prop where
  absent : Storage.ownedBy t id = [] → o = .leaf .null
  undecodable : ∀ row others, Storage.ownedBy t id = row :: others →
    (∃ entry ∈ layout, ∀ v, Storage.decodeDatum entry.1 entry.2 (t.datum row entry.1) ≠ .ok v) →
      ∃ entry ∈ layout, ∃ fault,
        Storage.decodeDatum entry.1 entry.2 (t.datum row entry.1) = .error fault ∧
          o = .failed (.fetch fault) round
  decoded : ∀ row others, Storage.ownedBy t id = row :: others →
    (∀ entry ∈ layout, ∃ v, Storage.decodeDatum entry.1 entry.2 (t.datum row entry.1) = .ok v) →
    ∀ owner g, x.schema.lookup type = some owner →
      Grouping.ofSelections x.schema x.doc x.vars type selections = .ok g →
      ∃ answered, AnswersFields layout t row owner round answered ∧
        o.data = .object (g.filterMap fun (label, uses) =>
          (answered uses).map fun field => (label, field.data)) ∧
        ∀ path, o.faults path = g.flatMap fun (label, uses) =>
          ((answered uses).map fun field => field.faults (path ++ [.key label])).getD []

/-- A component row that passes its checks, with an id in no quotes and a definition that can be
read against some known names. -/
structure ReadableRow (known : List String) (row : Row) (c : Record) (id name : String)
    (layout : Layout) : Prop where
  checked : Component.ofRow row = .ok c
  id_eq : Component.readText (Assoc.get? row "id") = .ok id
  name_eq : Component.readText (Assoc.get? row "name") = .ok name
  layout_eq : ∃ definition,
    Component.readText (Assoc.get? row "storage_definition") = .ok definition ∧
      Layout.read known name definition = .ok layout
  unquoted : unquote id = id

variable {s : Store} {found : List (String × Layout)} {tablePrefix : String} {schema : Schema}
  {doc : Document} {vars : Variables} {c r : Record} {id name : String} {layout : Layout}
  {round room : Nat} {uses : List FieldUse} {use : FieldUse}

theorem ReadableRow.texts {known : List String} {row : Row}
    (h : ReadableRow known row c id name layout) :
    c.get? "id" = some (.text id) ∧ c.get? "name" = some (.text name) ∧
      ∃ definition, c.get? "storageDefinition" = some (.text definition) ∧
        Layout.read known name definition = .ok layout := by
  obtain ⟨definition, hdefinition, hlayout⟩ := h.layout_eq
  have hget : ∀ entry ∈ Component.textColumns, ∀ text,
      Component.readText (Assoc.get? row entry.1) = .ok text → c.get? entry.2 = some (.text text) :=
    fun _ hentry _ => Component.get?_of_readText h.checked hentry
  exact ⟨hget ("id", "id") (by decide) id h.id_eq, hget ("name", "name") (by decide) name h.name_eq,
    definition, hget ("storage_definition", "storageDefinition") (by decide) definition hdefinition,
    hlayout⟩

/-! ### The field for the storage -/

theorem field?_of_not_meta {owner : TypeDef} {field : String}
    (h : field ∉ [Meta.schemaField.name, Meta.typeField.name, Meta.typeNameField.name]) :
    Schema.field? owner field = owner.field? field := by
  simp only [List.mem_cons, List.not_mem_nil, or_false, not_or] at h
  unfold Schema.field?
  rw [if_neg fun hmeta => h.1 hmeta.1, if_neg fun hmeta => h.2.1 hmeta.1,
    if_neg fun hmeta => h.2.2 hmeta.1]

theorem field?_storage (tablePrefix : String) (hne : Assoc.keys found ≠ []) :
    Schema.field? (componentType (Assoc.keys found) tablePrefix) "storage" =
      some (storageField (Assoc.keys found) tablePrefix) := by
  have hscalars : (Component.fields.filterMap scalarField?).find? (·.name == "storage") = none := by
    decide
  rw [field?_of_not_meta (by decide), componentType, if_neg hne, TypeDef.field?, TypeDef.fields,
    List.find?_append, hscalars]
  rfl

theorem exists_storageType (h : Shaped found tablePrefix schema) {type : String}
    (htype : type ∈ (Assoc.keys found).map Name.typeName) :
    ∃ entry ∈ found, type = Name.typeName entry.1 ∧
      schema.lookup type = some (storageType (Assoc.keys found) tablePrefix entry) := by
  obtain ⟨kept, hkept, rfl⟩ := List.mem_map.mp htype
  obtain ⟨entry, hentry, rfl⟩ := List.mem_map.mp hkept
  exact ⟨entry, hentry, rfl, lookup_storage h hentry⟩

theorem memberType_of_tag (h : Shaped found tablePrefix schema) {type : String}
    (htype : type ∈ (Assoc.keys found).map Name.typeName) (htag : r.tag = some type)
    (union : String) :
    memberType schema union ((Assoc.keys found).map Name.typeName) (.record r) = .ok type := by
  obtain ⟨entry, -, -, hlookup⟩ := exists_storageType h htype
  have hcontains : ((Assoc.keys found).map Name.typeName).contains type = true := by
    rwa [List.contains_eq_mem, decide_eq_true_eq]
  simp only [memberType, htag, hlookup, hcontains]
  rfl

/-- What the field for the storage answers, by what the store finds. -/
theorem exists_answerField_storage (h : Shaped found tablePrefix schema)
    {definition : String} (hid : c.get? "id" = some (.text id))
    (hname : c.get? "name" = some (.text name))
    (hdefinition : c.get? "storageDefinition" = some (.text definition))
    (hlayout : Layout.read (Assoc.keys found) name definition = .ok layout)
    (htype : typeName name ∈ (Assoc.keys found).map Name.typeName)
    (huse : uses.head? = some use) (hstorage : use.name = "storage") (doc : Document)
    (vars : Variables) (answer : Nat → List Selection → String → Source → Outcome) :
    ∃ o, answerField ⟨schema, doc, vars, some s⟩ answer
        (componentType (Assoc.keys found) tablePrefix) (.record c) round uses = some o ∧
      (∀ fault, Storage.byColumn s tablePrefix Storage.ownerColumn id name layout = .error fault →
        o = .failed (.fetch fault) (max round 1 + 1)) ∧
      (Storage.byColumn s tablePrefix Storage.ownerColumn id name layout = .ok none →
        o = .leaf .null) ∧
      ∀ r, Storage.byColumn s tablePrefix Storage.ownerColumn id name layout = .ok (some r) →
        o = answer (max round 1 + 1) (uses.flatMap (·.selections)) (typeName name) (.record r) := by
  have hne : Assoc.keys found ≠ [] := by
    rintro hnil
    simp [hnil] at htype
  have hf := field?_storage tablePrefix hne
  rw [← hstorage] at hf
  have hresolve : resolve schema (some s) Component.typeName (.record c) round []
      (.storage (Assoc.keys found) tablePrefix) =
        ⟨((Storage.byColumn s tablePrefix Storage.ownerColumn id name layout).map
          Found.ofRecord?).mapError .fetch, max round 1 + 1⟩ :=
    resolve_storage_of_texts schema s _ round hid hname hdefinition hlayout
  cases hr : Storage.byColumn s tablePrefix Storage.ownerColumn id name layout with
  | error fault =>
    rw [hr] at hresolve
    refine ⟨_, answerField_of_error huse hf rfl hresolve, ?_, by simp, by simp⟩
    intro fault' heq
    obtain rfl := Except.error.inj heq
    rfl
  | ok r? =>
    rw [hr] at hresolve
    refine ⟨_, answerField_of_ok huse hf rfl hresolve, by simp, ?_, ?_⟩
    · intro heq
      obtain rfl := Except.ok.inj heq
      rfl
    · intro r heq
      obtain rfl := Except.ok.inj heq
      have hmember := memberType_of_tag h htype (Storage.byColumn_tag hr) ObjectDef.storageUnion
      change objectOutcome schema _ _ ObjectDef.storageUnion (.record r) = _
      unfold objectOutcome
      rw [lookup_union h hne]
      simp only [hmember]

/-! ### The fields of a storage record -/

theorem name_mem_scalarNames (kind : Scalar) : kind.name ∈ scalarNames := by
  cases kind <;> decide

theorem mem_fields_of_scalar {owner : TypeDef} {field : String} {f : FieldDef} {kind : Scalar}
    (hf : Schema.field? owner field = some f) (htype : f.type = .named kind.name) :
    f ∈ owner.fields := by
  unfold Schema.field? at hf
  split_ifs at hf
  · obtain rfl := Option.some.inj hf
    simp [Meta.schemaField] at htype
  · obtain rfl := Option.some.inj hf
    have hname : "__Type" = kind.name := TypeExpr.named.inj htype
    exact absurd (hname ▸ name_mem_scalarNames kind) (by decide)
  · obtain rfl := Option.some.inj hf
    simp [Meta.typeNameField] at htype
  · exact List.mem_of_find?_eq_some hf

theorem eq_value_of_scalar (h : Shaped found tablePrefix schema) {entry : String × Layout}
    (hentry : entry ∈ found) {field : String} {f : FieldDef} {kind : Scalar}
    (hf : Schema.field? (storageType (Assoc.keys found) tablePrefix entry) field = some f)
    (htype : f.type = .named kind.name) :
    f = ⟨f.name, .named kind.name, [], "", .value f.name⟩ := by
  obtain ⟨kept, own⟩ := entry
  rcases mem_fields_storageType (mem_fields_of_scalar hf htype) with
    ⟨kind', -, heq⟩ | ⟨target, hmem, heq⟩
  · rw [heq] at htype
    rw [← TypeExpr.named.inj htype]
    exact heq
  · rw [heq] at htype
    have hname : typeName target = kind.name := TypeExpr.named.inj htype
    have htarget := (h.wellFormed _ hentry).references _ _ hmem
    exact absurd (hname ▸ name_mem_scalarNames kind) (h.admissible.not_mem_scalarNames htarget)

/-- A field of a storage type reads a value or follows a reference, whichever layout made the record
that it is read from. -/
theorem answersFields (h : Shaped found tablePrefix schema) {entry : String × Layout}
    (hentry : entry ∈ found) {t : Table} {row : StoredRow} {fields : List (String × Value)}
    (hnodup : (Assoc.keys layout).Nodup)
    (hfields : layout.mapM (Storage.decodeField t row) = .ok fields) (hround : 1 ≤ round)
    (x : Execution) (answer : Nat → List Selection → String → Source → Outcome)
    (tag : Option String) :
    AnswersFields layout t row (storageType (Assoc.keys found) tablePrefix entry) round fun uses =>
      answerField x answer (storageType (Assoc.keys found) tablePrefix entry)
        (.record ⟨fields, tag⟩) round uses := by
  obtain ⟨hnone, hsome⟩ := Storage.get?_of_decoded hnodup hfields
  constructor
  case missing =>
    intro uses use f huse hf hmem hmissing
    have hget : Record.get? ⟨fields, tag⟩ f.name = none := hnone f.name hmissing
    obtain ⟨kept, own⟩ := entry
    rcases mem_fields_storageType hmem with ⟨kind, -, heq⟩ | ⟨target, -, heq⟩
    · exact answerField_missing huse (hf.trans (congrArg some heq)) hget
    · rw [answerField_missing_reference huse (hf.trans (congrArg some heq)) hget,
        max_eq_left hround]
  case null =>
    intro uses use f kind huse hf htype hpresent hnull
    obtain ⟨⟨field, own⟩, hmem, hname⟩ := List.mem_map.mp hpresent
    obtain rfl : field = f.name := hname
    obtain ⟨v, hv, hget⟩ := hsome _ hmem
    rw [hnull] at hv
    obtain rfl : Value.null = v := Except.ok.inj hv
    exact answerField_null huse
      (hf.trans (congrArg some (eq_value_of_scalar h hentry hf htype))) hget
  case scalar =>
    intro uses use f kind own v huse hf htype hown hdatum hv
    obtain ⟨v', hv', hget⟩ := hsome _ hown
    obtain rfl := Except.ok.inj (hv.symm.trans hv')
    exact answerField_scalar huse (hf.trans (congrArg some (eq_value_of_scalar h hentry hf htype)))
      hget (Storage.decodeDatum_ne_null hdatum hv)

theorem named_of_storageType {entry : String × Layout} :
    ∀ f ∈ (storageType (Assoc.keys found) tablePrefix entry).fields,
      ∃ type, f.type = .named type := by
  intro f hf
  obtain ⟨kept, own⟩ := entry
  rcases mem_fields_storageType hf with ⟨kind, -, heq⟩ | ⟨target, -, heq⟩
  · exact ⟨_, congrArg FieldDef.type heq⟩
  · exact ⟨_, congrArg FieldDef.type heq⟩

theorem answerObject_storage (h : Shaped found tablePrefix schema) {entry : String × Layout}
    (hentry : entry ∈ found) {source : Source} {selections : List Selection} {g : Grouping}
    (hg : Grouping.ofSelections schema doc vars (typeName entry.1) selections = .ok g) :
    let x : Execution := ⟨schema, doc, vars, some s⟩
    let answered (uses : List FieldUse) : Option Outcome :=
      answerField x (answerObject x room) (storageType (Assoc.keys found) tablePrefix entry) source
        round uses
    let o := answerObject x (room + 1) round selections (typeName entry.1) source
    o.data = .object (g.filterMap fun (label, uses) =>
        (answered uses).map fun field => (label, field.data)) ∧
      ∀ path, o.faults path = g.flatMap fun (label, uses) =>
        ((answered uses).map fun field => field.faults (path ++ [.key label])).getD [] := by
  intro x answered o
  have hquery : (storageType (Assoc.keys found) tablePrefix entry).name ≠ queryType := by
    rw [name_storageType]
    exact h.admissible.ne_of_mem_takenNames (List.mem_map_of_mem hentry) (by decide)
  obtain ⟨hobject, hbreaks⟩ : o = .object (typeName entry.1) source
      (g.filterMap fun (label, uses) => (answered uses).map fun field => (label, field)) ∧
      ∀ field ∈ g.filterMap fun (label, uses) =>
        (answered uses).map fun field => (label, field), field.2.breaks = false :=
    answerObject_of_named (lookup_storage h hentry) hquery named_of_storageType hg
  rw [hobject]
  constructor
  · rw [Outcome.data_object hbreaks, List.map_filterMap]
    simp only [Option.map_map, Function.comp_def]
  · intro path
    rw [Outcome.faults_object hbreaks, List.filterMap_eq_flatMap_toList, List.flatMap_assoc]
    refine congrArg (g.flatMap ·) (funext fun ⟨label, uses⟩ => ?_)
    cases houtcome : answered uses <;> simp [houtcome]

/-! ### The storage of a component -/

theorem answersStorage_of_faithful (h : Shaped found tablePrefix schema)
    (htype : typeName name ∈ (Assoc.keys found).map Name.typeName) {t : Table}
    (hwf : Layout.WellFormed (Assoc.keys found) layout) (hunquoted : unquote id = id)
    (ht : s.table (tableName tablePrefix name) = .ok t) (hcovers : t.Covers layout)
    (hfaithful : Statement.Faithful (Assoc.keys layout) (tableName tablePrefix name)
      Storage.ownerColumn) {o : Outcome} (hround : 1 ≤ round) {selections : List Selection}
    (herror : ∀ fault, Storage.byColumn s tablePrefix Storage.ownerColumn id name layout =
      .error fault → o = .failed (.fetch fault) round)
    (hnone : Storage.byColumn s tablePrefix Storage.ownerColumn id name layout = .ok none →
      o = .leaf .null)
    (hsome : ∀ r, Storage.byColumn s tablePrefix Storage.ownerColumn id name layout =
      .ok (some r) → o = answerObject ⟨schema, doc, vars, some s⟩ (room + 1) round selections
        (typeName name) (.record r)) :
    AnswersStorage ⟨schema, doc, vars, some s⟩ layout t id (typeName name) round selections o := by
  have hfetch := Storage.byColumn_of_prepared hfaithful ht (hcovers.length_le hwf.nodup) hunquoted
  constructor
  case absent =>
    intro howned
    rw [howned] at hfetch
    exact hnone hfetch
  case undecodable =>
    rintro row others howned ⟨entry, hentry, hbad⟩
    rw [howned] at hfetch
    dsimp only at hfetch
    rw [Storage.decodeRow_fetched hcovers hwf.nodup] at hfetch
    cases hfields : layout.mapM (Storage.decodeField t row) with
    | ok fields =>
      obtain ⟨v, hv, -⟩ := (Storage.get?_of_decoded hwf.nodup hfields).2 entry hentry
      exact absurd hv (hbad v)
    | error fault =>
      rw [hfields] at hfetch
      obtain ⟨failing, hfailing, hfault⟩ := exists_of_mapM_eq_error hfields
      refine ⟨failing, hfailing, fault, ?_, herror fault hfetch⟩
      exact map_eq_error_iff.mp hfault
  case decoded =>
    intro row others howned hall owner g howner hg
    rw [howned] at hfetch
    dsimp only at hfetch
    rw [Storage.decodeRow_fetched hcovers hwf.nodup] at hfetch
    obtain ⟨fields, hfields⟩ : ∃ fields, layout.mapM (Storage.decodeField t row) = .ok fields := by
      refine exists_mapM_eq_ok fun entry hentry => ?_
      obtain ⟨v, hv⟩ := hall entry hentry
      exact ⟨_, map_eq_ok_iff.mpr ⟨v, hv, rfl⟩⟩
    rw [hfields] at hfetch
    obtain ⟨entry, hentry, hname, hlookup⟩ := exists_storageType h htype
    obtain rfl : storageType (Assoc.keys found) tablePrefix entry = owner :=
      Option.some.inj (hlookup.symm.trans howner)
    obtain rfl := hsome _ hfetch
    rw [hname] at hg ⊢
    exact ⟨_, answersFields h hentry hwf.nodup hfields hround _ _ _,
      answerObject_storage h hentry hg⟩

/-- The field of components for their storage, asked of a component row that can be read by its own
definition. The row of the storage table is decoded by that definition whatever the schema says, and
every selected field answers by itself, as long as the statement is faithful. If it is not, there is
a fault of the store or another table is read. -/
theorem answerField_storage {built s : Store} {tablePrefix : String} {storage : List ObjectDef}
    {schema : Schema} (hstorage : Discovery.ofStore built tablePrefix = .ok storage)
    (hschema : Schema.ofStore built tablePrefix = .ok schema) {row : Row} {c : Record}
    {id name : String} {layout : Layout}
    (hrow : ReadableRow (storage.filterMap (·.declaredName?)) row c id name layout)
    (hmember : typeName name ∈ schema.storageTypes) {t : Table}
    (ht : s.table (tableName tablePrefix (typeName name)) = .ok t) (hcovers : t.Covers layout)
    {owner : TypeDef} (howner : schema.lookup Component.typeName = some owner)
    {uses : List FieldUse} {use : FieldUse} (huse : uses.head? = some use)
    (hfield : use.name = "storage") (doc : Document) (vars : Variables) (round room : Nat) :
    let x : Execution := ⟨schema, doc, vars, some s⟩
    let table := tableName tablePrefix (typeName name)
    ∃ o, answerField x (answerObject x (room + 1)) owner (.record c) round uses = some o ∧
      (Statement.Faithful (Assoc.keys layout) table Storage.ownerColumn →
        AnswersStorage x layout t id (typeName name) (max round 1 + 1)
          (uses.flatMap (·.selections)) o) ∧
      (¬Statement.Faithful (Assoc.keys layout) table Storage.ownerColumn →
        (∃ fault, o = .failed (.fetch (.store fault)) (max round 1 + 1)) ∨
        Store.sameName (Statement.spelled table) table = false ∧
          ∃ other, s.table (Statement.spelled table) = .ok other ∧
            (Storage.ownedBy other id = [] → o = .leaf .null)) := by
  obtain ⟨storage', found, hstorage', hknown, h⟩ := ofStore_shaped hschema
  obtain rfl := Except.ok.inj (hstorage.symm.trans hstorage')
  rw [hknown] at hrow
  obtain rfl := Option.some.inj ((lookup_component h).symm.trans howner)
  have htype : typeName name ∈ (Assoc.keys found).map Name.typeName := storageTypes_eq h ▸ hmember
  have hschemaName : IsSchemaName (typeName name) := by
    obtain ⟨kept, hkept, heq⟩ := List.mem_map.mp htype
    rw [← heq]
    exact h.admissible.isSchemaName kept hkept
  obtain ⟨hid, hname, definition, hdefinition, hlayout⟩ := hrow.texts
  have hwf := Layout.readChars_wellFormed (Layout.read_eq_ok_iff.mp hlayout)
  have htable : tableName tablePrefix (typeName name) = tableName tablePrefix name :=
    Storage.tableName_typeName hschemaName
  intro x table
  obtain ⟨o, ho, herror, hnone, hsome⟩ := exists_answerField_storage h hid hname hdefinition hlayout
    htype huse hfield doc vars (answerObject x (room + 1))
  refine ⟨o, ho, fun hfaithful => ?_, fun hmisnamed => ?_⟩
  · rw [htable] at ht
    simp only [table, htable] at hfaithful
    exact answersStorage_of_faithful h htype hwf hrow.unquoted ht hcovers hfaithful (by omega)
      herror hnone hsome
  · simp only [table, htable] at hmisnamed ⊢
    rcases Storage.byColumn_misnamed hrow.unquoted hmisnamed with
      ⟨fault, hfault⟩ | ⟨hne, other, hother, hnothing⟩
    · exact Or.inl ⟨fault, herror _ hfault⟩
    · refine Or.inr ⟨?_, other, hother, fun howned => hnone (hnothing howned)⟩
      rw [← Bool.not_eq_true, Statement.sameName_spelled_iff]
      exact hne

/-- An older row of a name that has a second field by now: the field fails, and nothing else. -/
theorem answerField_storage_of_older_row :
    let built := Store.empty.create "components" Component.columns
      [[.text "0x1", .text "Position", .text "0x9", .text "0x8", .text "0x7", .text "x: Felt",
          .int 1],
        [.text "0x2", .text "Position", .text "0x9", .text "0x8", .text "0x7",
          .text "x: Felt, label: String", .int 2]]
    let s := built.create "storage_position" ["component_id", "x", "label"]
      [[.text "0x1", .text "1", .null]]
    let row : Row := Component.columns.zip [.text "0x1", .text "Position", .text "0x9", .text "0x8",
      .text "0x7", .text "x: Felt", .int 1]
    let selections : List Selection :=
      [.group (some "Position") [] [.field none "x" [] [] [], .field none "label" [] [] []]]
    ∃ schema owner c o,
      Schema.ofStore built "storage_" = .ok schema ∧ Component.ofRow row = .ok c ∧
      schema.lookup Component.typeName = some owner ∧
      let x : Execution := ⟨schema, [.operation ⟨.query, none, [], [], selections⟩], [], some s⟩
      answerField x (answerObject x 1) owner (.record c) 0 [⟨"storage", [], selections⟩] = some o ∧
        o.data = .object [("x", .text "0x1"), ("label", .null)] ∧
        ∀ path, o.faults path =
          [⟨path ++ [.key "label"], .fetch (.record (.missing "label")), 2⟩] := by
  intro built s row selections
  have hdeclares : Component.Declares built
      [("Position", "x: Felt"), ("Position", "x: Felt, label: String")] :=
    ⟨_, Component.rowsInOrder_of_sorted rfl rfl rfl rfl (by decide), rfl⟩
  have hstorage := Discovery.ofStore_of_declares hdeclares "storage_"
  have hkept : Discovery.kept (Component.history
      [("Position", "x: Felt"), ("Position", "x: Felt, label: String")]) =
        [("Position", [("x", .scalar .felt), ("label", .scalar .string)])] := by
    decide +kernel
  have hadmissible : Admissible ["Position"] := by
    refine ⟨by decide +kernel, fun name hname => ?_, by decide +kernel⟩
    rw [← checkName_eq_ok_iff (u := ())]
    revert name
    decide +kernel
  obtain ⟨schema, hschema, hshaped⟩ : ∃ schema, Schema.ofStore built "storage_" = .ok schema ∧
      Shaped (Discovery.kept (Component.history [("Position", "x: Felt"),
        ("Position", "x: Felt, label: String")])) "storage_" schema :=
    exists_ofStore_shaped hdeclares (hkept ▸ hadmissible)
  rw [hkept] at hshaped
  obtain ⟨c, hc⟩ : ∃ c, Component.ofRow row = .ok c := exists_eq_ok (by decide +kernel)
  have hlayout : Layout.read ["Position"] "Position" "x: Felt" = .ok [("x", .scalar .felt)] := by
    rw [Layout.read_eq_ok_iff]
    decide +kernel
  have hrow : ReadableRow ["Position"] row c "0x1" "Position" [("x", .scalar .felt)] :=
    ⟨hc, rfl, rfl, ⟨"x: Felt", rfl, hlayout⟩, by decide +kernel⟩
  have hknown : (Discovery.objects (Component.history
      [("Position", "x: Felt"), ("Position", "x: Felt, label: String")]) "storage_").filterMap
        (·.declaredName?) = ["Position"] := by
    rw [Discovery.filterMap_declaredName?_objects, hkept]
    rfl
  have hmember : typeName "Position" ∈ schema.storageTypes := by
    rw [storageTypes_eq hshaped]
    exact List.mem_cons_self
  have htable : tableName "storage_" (typeName "Position") = "storage_position" := by
    decide +kernel
  let t : Table := ⟨"storage_position", ["component_id", "x", "label"],
    [⟨1, [.text "0x1", .text "1", .null]⟩]⟩
  have ht : s.table (tableName "storage_" (typeName "Position")) = .ok t := by
    rw [htable]
    rfl
  have hcovers : t.Covers [("x", .scalar .felt)] :=
    ⟨by decide, by decide, by decide⟩
  rw [← hknown] at hrow
  have huse : ([⟨"storage", [], selections⟩] : List FieldUse).head? =
      some ⟨"storage", [], selections⟩ := rfl
  obtain ⟨o, ho, hanswers, -⟩ := answerField_storage hstorage hschema hrow hmember ht hcovers
    (lookup_component hshaped) huse rfl [.operation ⟨.query, none, [], [], selections⟩] [] 0 0
  have hname : typeName "Position" = "Position" := by decide +kernel
  have hfaithful : Statement.Faithful (Assoc.keys [("x", TypeRef.scalar .felt)])
      (tableName "storage_" (typeName "Position")) Storage.ownerColumn := by
    have hnamed : Name.IsSchemaName (typeName (typeName "Position")) := by
      rw [hname, hname]
      have hrest : "osition".toList.all Layout.isNamePart = true := by decide +kernel
      exact ⟨'P', _, rfl, by decide, List.all_eq_true.mp hrest⟩
    exact Storage.faithful_of_plain_prefix
      (Layout.readChars_wellFormed (Layout.read_eq_ok_iff.mp hlayout)) hnamed
      (by decide : Statement.PlainText "storage_".toList)
  have hentry : ("Position", [("x", .scalar .felt), ("label", .scalar .string)]) ∈
      [(("Position", [("x", .scalar .felt), ("label", .scalar .string)]) : String × Layout)] :=
    List.mem_cons_self
  have hlookup := lookup_storage hshaped hentry
  have hdecode : Storage.decodeDatum "x" (.scalar .felt)
      (t.datum ⟨1, [.text "0x1", .text "1", .null]⟩ "x") = .ok (.text "0x1") := rfl
  have hall : ∀ entry ∈ [(("x", .scalar .felt) : String × TypeRef)], ∃ v, Storage.decodeDatum
      entry.1 entry.2 (t.datum ⟨1, [.text "0x1", .text "1", .null]⟩ entry.1) = .ok v := by
    intro entry hentry
    obtain rfl := List.mem_singleton.mp hentry
    exact ⟨.text "0x1", hdecode⟩
  have hgroups : Grouping.ofSelections schema [.operation ⟨.query, none, [], [], selections⟩] []
      (typeName "Position") selections =
        .ok [("x", [⟨"x", [], []⟩]), ("label", [⟨"label", [], []⟩])] := by
    rw [hname]
    rfl
  obtain ⟨answered, hfields, hdata, hfaults⟩ := (hanswers hfaithful).decoded
    ⟨1, [.text "0x1", .text "1", .null]⟩ [] rfl hall _ _ hlookup (by simpa using hgroups)
  have hcell : t.datum ⟨1, [.text "0x1", .text "1", .null]⟩ "x" = .text "1" := rfl
  have hx : answered [⟨"x", [], []⟩] = some (scalarOutcome 2 .felt (.text "0x1")) :=
    hfields.scalar _ ⟨"x", [], []⟩ ⟨"x", .named Scalar.felt.name, [], "", .value "x"⟩ .felt
      (.scalar .felt) _ rfl (field?_of_not_meta (by decide)) rfl List.mem_cons_self
      (by simp [hcell]) hdecode
  have hlabel : answered [⟨"label", [], []⟩] =
      some (.failed (.fetch (.record (.missing "label"))) 2) :=
    hfields.missing _ ⟨"label", [], []⟩ ⟨"label", .named Scalar.string.name, [], "", .value "label"⟩
      rfl (field?_of_not_meta (by decide)) (by decide) (by decide)
  refine ⟨schema, _, c, o, hschema, hc, lookup_component hshaped, ho, ?_, ?_⟩
  · rw [hdata]
    simp only [List.filterMap_cons, List.filterMap_nil, hx, hlabel]
    rfl
  · intro path
    rw [hfaults]
    simp only [List.flatMap_cons, List.flatMap_nil, hx, hlabel]
    rfl

end WorldQuery.Query
