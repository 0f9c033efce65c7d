import WorldQuery.Proofs.Query.Agreement
import WorldQuery.Proofs.Query.Ownership

/-!
# References lead where the root does

A reference goes from an id straight to the table of components and on to a storage table, with
statements of its own. The root looks a whole component up by the id, checks its row, and asks its
record for the storage. `references_agree_with_root` says that the two ways end at the same record
or the same fault, up to the type that the reference asks for. They part where a name or a
definition is stored as bytes: the root reads it as a text, and a reference does not.
-/

namespace WorldQuery

open Name Success

/-! ### The row of an id -/

namespace Component

variable {s : Store} {id : String}

/-- The name and the definition in the row of an id are texts. -/
def KeptAsTexts (s : Store) (id : String) : Prop :=
  ∀ row, rowById s layoutColumns id = .ok (some row) →
    (∃ name, columnDatum row 0 = .text name) ∧ ∃ definition, columnDatum row 1 = .text definition

theorem exists_position {t : Table} {selected : List Nat} {column : String}
    (hselected : positions t columns = .ok selected) (hcolumn : column ∈ columns) :
    ∃ i, t.position column = .ok i := by
  have hall := mapM_eq_ok_iff.mp hselected
  obtain ⟨k, hk, rfl⟩ := List.getElem_of_mem hcolumn
  exact ⟨_, hall.get hk (hall.length_eq ▸ hk)⟩

theorem positions_layoutColumns {t : Table} {selected : List Nat}
    (hselected : positions t columns = .ok selected) :
    ∃ nameAt definitionAt, t.position "name" = .ok nameAt ∧
      t.position "storage_definition" = .ok definitionAt ∧
      positions t layoutColumns = .ok [nameAt, definitionAt] := by
  obtain ⟨nameAt, hnameAt⟩ : ∃ i, t.position "name" = .ok i :=
    exists_position hselected (by decide)
  obtain ⟨definitionAt, hdefinitionAt⟩ : ∃ i, t.position "storage_definition" = .ok i :=
    exists_position hselected (by decide)
  exact ⟨nameAt, definitionAt, hnameAt, hdefinitionAt,
    positions_layoutColumns_eq_ok_iff.mpr ⟨_, _, hnameAt, hdefinitionAt, rfl⟩⟩

theorem rowById_of_byId_none (h : byId s id = .ok none) :
    rowById s layoutColumns id = .ok none := by
  obtain ⟨row?, hrow, h⟩ := bind_eq_ok_iff.mp h
  cases row? with
  | some row =>
    obtain ⟨c, -, h⟩ := bind_eq_ok_iff.mp h
    simpa using pure_eq_ok_iff.mp h
  | none =>
    obtain ⟨t, selected, key, ht, hselected, hkey, hnone⟩ :=
      rowById_eq_ok_iff.mp (mapError_eq_ok_iff.mp hrow)
    obtain ⟨nameAt, definitionAt, -, -, hlayout⟩ := positions_layoutColumns hselected
    refine rowById_eq_ok_iff.mpr ⟨t, _, key, ht, hlayout, hkey, ?_⟩
    rw [Option.map_eq_none_iff.mp hnone, Option.map_none]

/-- The component of an id has the texts of the row that a reference finds for it. -/
theorem rowById_of_byId_some {c : Record} (h : byId s id = .ok (some c)) :
    ∃ row name definition, rowById s layoutColumns id = .ok (some row) ∧
      readText (some (columnDatum row 0)) = .ok name ∧
      readText (some (columnDatum row 1)) = .ok definition ∧
      c.get? "id" = some (.text id) ∧ c.get? "name" = some (.text name) ∧
      c.get? "storageDefinition" = some (.text definition) := by
  obtain ⟨row?, hrow, h⟩ := bind_eq_ok_iff.mp h
  cases row? with
  | none => simpa using pure_eq_ok_iff.mp h
  | some row =>
    obtain ⟨c', hc, h⟩ := bind_eq_ok_iff.mp h
    obtain rfl := Option.some.inj (pure_eq_ok_iff.mp h)
    obtain ⟨t, selected, key, ht, hselected, hkey, hfound⟩ :=
      rowById_eq_ok_iff.mp (mapError_eq_ok_iff.mp hrow)
    obtain ⟨stored, hstored, rfl⟩ := Option.map_eq_some_iff.mp hfound
    obtain ⟨nameAt, definitionAt, hnameAt, hdefinitionAt, hlayout⟩ :=
      positions_layoutColumns hselected
    obtain ⟨-, htexts⟩ := ofRow_eq_ok hc
    -- both statements find one stored row, but pick other columns of it
    have hcell : ∀ entry ∈ textColumns, ∀ i, t.position entry.1 = .ok i → ∃ text,
        readText (some (Table.cell stored i)) = .ok text ∧ c'.get? entry.2 = some (.text text) := by
      intro entry hentry i hi
      obtain ⟨text, hread, hvalue⟩ := htexts entry hentry
      obtain ⟨j, hj, -, hcell⟩ := exists_cell_of_readText hselected
        (List.mem_append_left _ (List.mem_map_of_mem hentry)) hread
      obtain rfl := Except.ok.inj (hi.symm.trans hj)
      exact ⟨text, hcell, hvalue⟩
    obtain ⟨name, hname, hcname⟩ := hcell ("name", "name") (by decide) nameAt hnameAt
    obtain ⟨definition, hdefinition, hcdefinition⟩ :=
      hcell ("storage_definition", "storageDefinition") (by decide) definitionAt hdefinitionAt
    obtain ⟨own, hown, hcown⟩ := hcell ("id", "id") (by decide) key hkey
    have hwanted := List.find?_some hstored
    have hid : Table.cell stored key = .text id := Store.eq_text_of_equalData hwanted
    obtain rfl : id = own := by
      rw [hid] at hown
      exact Except.ok.inj hown
    refine ⟨pick t [nameAt, definitionAt] stored, name, definition, ?_, hname, hdefinition, hcown,
      hcname, hcdefinition⟩
    exact rowById_eq_ok_iff.mpr
      ⟨t, _, key, ht, hlayout, hkey, Option.map_eq_some_iff.mpr ⟨stored, hstored, rfl⟩⟩

end Component

namespace Storage

variable {s : Store} {tablePrefix : String} {known : List String} {id name definition : String}
  {row : Row}

/-- The storage record of a component that says its name and its definition. -/
def ofTexts (s : Store) (tablePrefix : String) (known : List String) (id name definition : String) :
    Except Fault (Option Record) := do
  let layout ← (Layout.read known name definition).mapError .layout
  byColumn s tablePrefix ownerColumn id name layout

theorem ofComponent_of_none
    (h : Component.rowById s Component.layoutColumns (unquote id) = .ok none) :
    ofComponent s tablePrefix known id = .ok none := by
  unfold ofComponent
  rw [h]
  rfl

theorem ofComponent_of_texts
    (h : Component.rowById s Component.layoutColumns (unquote id) = .ok (some row))
    (hname : Component.columnDatum row 0 = .text name)
    (hdefinition : Component.columnDatum row 1 = .text definition) :
    ofComponent s tablePrefix known id = ofTexts s tablePrefix known id name definition := by
  unfold ofComponent ofTexts
  rw [h]
  change (layoutOf known (Component.columnDatum row 0) (Component.columnDatum row 1) >>=
    fun layout =>
    Component.nameText (Component.columnDatum row 0) >>= fun name =>
      byColumn s tablePrefix ownerColumn id name layout) = _
  rw [hname, hdefinition]
  rfl

/-- A layout comes from a text, or from a definition that is none at all. -/
theorem text_of_layoutOf {owner d : Datum} {layout : Layout}
    (h : layoutOf known owner d = .ok layout) : ∃ definition, d = .text definition := by
  obtain ⟨text, htext, hlayout⟩ := bind_eq_ok_iff.mp h
  have hread : Layout.readChars known text.toList = .ok layout := by
    cases owner <;> exact Layout.read_eq_ok_iff.mp (mapError_eq_ok_iff.mp hlayout)
  have hempty : Layout.readChars known "".toList = .error .empty := rfl
  have hblank : text ≠ "" := by
    rintro rfl
    rw [hempty] at hread
    simp at hread
  cases d with
  | text definition => exact ⟨definition, rfl⟩
  | null => exact absurd (Except.ok.inj htext).symm hblank
  | blob bytes =>
    simp only [Component.definitionText] at htext
    split_ifs at htext
    exact absurd (Except.ok.inj htext).symm hblank
  | _ => simp [Component.definitionText] at htext

theorem text_of_nameText {d : Datum} (h : Component.nameText d = .ok name) : d = .text name := by
  cases d <;> simp [Component.nameText] at h
  rw [h]

theorem ofComponent_of_not_texts
    (h : Component.rowById s Component.layoutColumns (unquote id) = .ok (some row))
    (hnot : ¬((∃ name, Component.columnDatum row 0 = .text name) ∧
      ∃ definition, Component.columnDatum row 1 = .text definition)) :
    ∃ fault, ofComponent s tablePrefix known id = .error fault := by
  cases hresult : ofComponent s tablePrefix known id with
  | error fault => exact ⟨fault, rfl⟩
  | ok r? =>
    obtain ⟨row?, hrow, hresult⟩ := bind_eq_ok_iff.mp hresult
    obtain rfl : some row = row? := Except.ok.inj (h.symm.trans (mapError_eq_ok_iff.mp hrow))
    obtain ⟨layout, hlayout, hnamed⟩ := bind_eq_ok_iff.mp hresult
    obtain ⟨name, hname, -⟩ := bind_eq_ok_iff.mp hnamed
    exact absurd ⟨⟨name, text_of_nameText hname⟩, text_of_layoutOf hlayout⟩ hnot

/-- A record with a text in a field for a reference: it was decoded from a row that has the text in
the column of the field. -/
structure RefersTo (layout : Layout) (row : Row) (field text : String) (r : Record) : Prop where
  layout_eq : ∃ known type definition, Layout.read known type definition = .ok layout
  declared : ∃ target, (field, .object target) ∈ layout
  datum : ∃ d, Assoc.get? row field = some d ∧ d ≠ .null ∧ d.plain = text
  decoded : ∃ absent tag, decodeRow absent row layout tag = .ok r

theorem RefersTo.get?_eq {layout : Layout} {field text : String} {r : Record}
    (h : RefersTo layout row field text r) : r.get? field = some (.text (unquote text)) := by
  obtain ⟨known, type, definition, hlayout⟩ := h.layout_eq
  obtain ⟨target, htarget⟩ := h.declared
  obtain ⟨d, hd, hnull, rfl⟩ := h.datum
  obtain ⟨absent, tag, hr⟩ := h.decoded
  have hnodup := (Layout.readChars_wellFormed (Layout.read_eq_ok_iff.mp hlayout)).nodup
  obtain ⟨v, hv, hget⟩ := get?_of_decodeRow hnodup hr htarget hd
  obtain ⟨-, rfl⟩ := (decodeDatum_object_eq_ok_iff hnull).mp hv
  exact hget

end Storage

namespace Query

open Schema

variable {s : Store} {found : List (String × Layout)} {tablePrefix : String} {schema : Schema}
  {field target : String} {known : List String}

/-! ### The two ways -/

/-- What a reference makes of the storage that the root would find for the same component. -/
structure FollowsOwn (field target : String) (own reference : Except AnswerFault Found) :
    Prop where
  nothing : own = .ok .nothing → reference = .ok .nothing
  same : ∀ r, own = .ok (.one (.record r)) → r.tag = some (typeName target) →
    reference = .ok (.one (.record r))
  mismatch : ∀ r, own = .ok (.one (.record r)) → r.tag ≠ some (typeName target) →
    reference =
      .error (.fetch (.record (.mismatch field (typeName target) (Question.tagWord r))))
  fault : ∀ fault, own = .error fault → reference = .error fault

/-- What a reference to an id finds, by what the root finds for it. -/
structure AgreesWithRoot (schema : Schema) (s : Store) (id field target : String)
    (root reference : Except AnswerFault Found) : Prop where
  nothing : root = .ok .nothing → reference = .ok .nothing
  found : Component.KeptAsTexts s id → ∀ c, root = .ok (.one (.record c)) → ∃ own,
    fieldResult? schema s Component.typeName "storage" (.record c) [] = some own ∧
      FollowsOwn field target own reference
  bytes : ¬Component.KeptAsTexts s id → ∃ fault, reference = .error fault

/-- What a resolver finds, by what the store answers to its question for a record. -/
def foundOf (record : Except Fault (Option Record)) : Except AnswerFault Found :=
  (record.map Found.ofRecord?).mapError .fetch

theorem foundOf_eq_nothing_iff {record : Except Fault (Option Record)} :
    foundOf record = .ok .nothing ↔ record = .ok none := by
  rcases record with fault | _ | r <;>
    simp [foundOf, Except.map, Except.mapError, Found.ofRecord?]

theorem foundOf_eq_one_iff {record : Except Fault (Option Record)} {r : Record} :
    foundOf record = .ok (.one (.record r)) ↔ record = .ok (some r) := by
  rcases record with fault | _ | r' <;>
    simp [foundOf, Except.map, Except.mapError, Found.ofRecord?]

theorem foundOf_eq_error_iff {record : Except Fault (Option Record)} {fault : AnswerFault} :
    foundOf record = .error fault ↔ ∃ cause, record = .error cause ∧ .fetch cause = fault := by
  rcases record with cause | _ | r <;> simp [foundOf, Except.map, Except.mapError]

theorem fieldResult?_component (h : Shaped found tablePrefix schema) (id : String) :
    fieldResult? schema s queryType "component" .root [("id", .text id)] =
      some (foundOf (Component.byId s (unquote id))) := by
  have hf : Schema.field? Schema.rootType "component" = rootFields.head? := rfl
  rw [fieldResult?_of_field? (lookup_root h) hf 0]
  rfl

theorem fieldResult?_storage (h : Shaped found tablePrefix schema) (hne : Assoc.keys found ≠ [])
    {c : Record} {id name definition : String} (hid : c.get? "id" = some (.text id))
    (hname : c.get? "name" = some (.text name))
    (hdefinition : c.get? "storageDefinition" = some (.text definition)) :
    fieldResult? schema s Component.typeName "storage" (.record c) [] =
      some (foundOf (Storage.ofTexts s tablePrefix (Assoc.keys found) id name definition)) := by
  rw [fieldResult?_of_field? (lookup_component h) (field?_storage tablePrefix hne) 0, storageField,
    Storage.ofTexts]
  cases hlayout : Layout.read (Assoc.keys found) name definition with
  | ok layout =>
    rw [resolve_storage_of_texts schema s _ 0 hid hname hdefinition hlayout]
    rfl
  | error fault =>
    rw [resolve_storage_of_unreadable hid hname hdefinition hlayout]
    rfl

theorem result_reference {owner id : String} {r : Record} {args : Variables} {round : Nat}
    (hget : r.get? field = some (.text id)) :
    (resolve schema (some s) owner (.record r) round args
      (.reference field target known tablePrefix)).result =
        foundOf (Question.follow s field target known tablePrefix id) := by
  have htext : Resolver.text r field = .ok id := by
    rw [Resolver.text, extractText_eq_ok_iff.mpr hget]
    rfl
  have hask : Resolver.askReference field target known tablePrefix r =
      .ok (.ask (.reference field target known tablePrefix id)) := by
    simp [Resolver.askReference, hget, htext, Except.map]
  simp [resolve, Resolver.inquire, hask, Except.mapError, Question.answer, foundOf]

/-- A reference passes on what is found for the component, but checks its type. -/
theorem followsOwn_follow {id : String} {record : Except Fault (Option Record)}
    (h : Storage.ofComponent s tablePrefix known id = record) :
    FollowsOwn field target (foundOf record)
      (foundOf (Question.follow s field target known tablePrefix id)) := by
  constructor
  case nothing =>
    intro hnothing
    rw [foundOf_eq_nothing_iff] at hnothing ⊢
    exact bind_eq_ok_iff.mpr ⟨none, h.trans hnothing, rfl⟩
  case same =>
    intro r hr htag
    rw [foundOf_eq_one_iff] at hr ⊢
    exact bind_eq_ok_iff.mpr ⟨some r, h.trans hr, if_pos htag⟩
  case mismatch =>
    intro r hr htag
    rw [foundOf_eq_one_iff] at hr
    rw [foundOf_eq_error_iff]
    refine ⟨_, ?_, rfl⟩
    unfold Question.follow
    rw [h, hr]
    exact if_neg htag
  case fault =>
    intro fault hfault
    rw [foundOf_eq_error_iff] at hfault ⊢
    obtain ⟨cause, hcause, rfl⟩ := hfault
    refine ⟨cause, ?_, rfl⟩
    unfold Question.follow
    rw [h, hcause]
    rfl

theorem agreesWithRoot_follow (h : Shaped found tablePrefix schema) (hne : Assoc.keys found ≠ [])
    {id : String} (hid : unquote id = id) :
    AgreesWithRoot schema s id field target (foundOf (Component.byId s id))
      (foundOf (Question.follow s field target (Assoc.keys found) tablePrefix id)) := by
  constructor
  case nothing =>
    intro hnothing
    have hrow := Component.rowById_of_byId_none (foundOf_eq_nothing_iff.mp hnothing)
    rw [← hid] at hrow
    exact (followsOwn_follow (Storage.ofComponent_of_none hrow)).nothing rfl
  case found =>
    intro htexts c hc
    obtain ⟨row, name, definition, hrow, hname, hdefinition, hcid, hcname, hcdefinition⟩ :=
      Component.rowById_of_byId_some (foundOf_eq_one_iff.mp hc)
    obtain ⟨⟨name', hname'⟩, definition', hdefinition'⟩ := htexts row hrow
    obtain rfl : name' = name := by
      rw [hname'] at hname
      exact Except.ok.inj hname
    obtain rfl : definition' = definition := by
      rw [hdefinition'] at hdefinition
      exact Except.ok.inj hdefinition
    rw [← hid] at hrow
    exact ⟨_, fieldResult?_storage h hne hcid hcname hcdefinition,
      followsOwn_follow (Storage.ofComponent_of_texts hrow hname' hdefinition')⟩
  case bytes =>
    intro hbytes
    simp only [Component.KeptAsTexts, not_forall] at hbytes
    obtain ⟨row, hrow, hnot⟩ := hbytes
    rw [← hid] at hrow
    obtain ⟨fault, hfault⟩ := Storage.ofComponent_of_not_texts hrow hnot
    exact ⟨_, (followsOwn_follow hfault).fault _ rfl⟩

/-- A field that a schema declares as a reference, in a record with a text in that field, leads
where the root leads from the text, unless it is in more than one pair of quotes. -/
theorem references_agree_with_root {built : Store}
    (h : Schema.ofStore built tablePrefix = .ok schema) (s : Store) {owner : TypeDef}
    (howner : schema.lookup owner.name = some owner) {f : FieldDef}
    (hf : Schema.field? owner field = some f) {ownPrefix : String}
    (hresolver : f.resolver = .reference field target known ownPrefix) {layout : Layout} {row : Row}
    {text : String} {r : Record} (hr : Storage.RefersTo layout row field text r)
    (hquotes : ¬Wrapped (unquote text)) :
    ∃ root reference,
      fieldResult? schema s queryType "component" .root [("id", .text text)] = some root ∧
      fieldResult? schema s owner.name field (.record r) [] = some reference ∧
      AgreesWithRoot schema s (unquote text) field target root reference := by
  obtain ⟨-, found, -, -, hshaped⟩ := ofStore_shaped h
  have hreference : fieldResult? schema s owner.name field (.record r) [] = some _ :=
    fieldResult?_of_field? howner hf 0
  have hfield := fieldOf_of_field? hshaped howner hf
  rw [hresolver] at hfield hreference
  rw [result_reference hr.get?_eq] at hreference
  generalize f.type.base = base at hfield
  cases hfield with
  | reference _ htarget =>
    have hne : Assoc.keys found ≠ [] := List.ne_nil_of_mem htarget
    exact ⟨_, _, fieldResult?_component hshaped text, hreference,
      agreesWithRoot_follow hshaped hne (unquote_eq_self_iff.mpr hquotes)⟩

section Worlds

/-- A world of one component with a name and a definition, whose record refers to itself. -/
def selfReference (name definition : Datum) : Store :=
  (Store.empty.create "components" Component.columns
    [[.text "0x1", name, .text "0x9", .text "0x8", .text "0x7", definition, .int 1]]).create
      "storage_node" ["component_id", "next", "x"] [[.text "0x1", .text "0x1", .text "0x5"]]

/-- The world with texts, which has a schema. -/
def selfReferenceInTexts : Store := selfReference (.text "Node") (.text "next: Node, x: Felt")

def selfRecord : Record := ⟨[("next", .text "0x1"), ("x", .text "0x5")], some "Node"⟩

theorem selfRecord_refersTo :
    Storage.RefersTo [("next", .object "Node"), ("x", .scalar .felt)]
      [("next", .text "0x1"), ("x", .text "0x5")] "next" "0x1" selfRecord := by
  refine ⟨⟨["Node"], "Node", "next: Node, x: Felt", ?_⟩, ⟨"Node", List.mem_cons_self⟩,
    ⟨.text "0x1", rfl, nofun, rfl⟩, Storage.absentColumn, some "Node", rfl⟩
  rw [Layout.read_eq_ok_iff]
  decide +kernel

/-- With a schema of the world in texts the root finds the component and its record in another
world. -/
structure RootFinds (s : Store) (schema : Schema) (owner : TypeDef) (f : FieldDef) (c : Record) :
    Prop where
  built : Schema.ofStore selfReferenceInTexts "storage_" = .ok schema
  owner_eq : schema.lookup "Node" = some owner
  field_eq : Schema.field? owner "next" = some f
  resolver_eq : f.resolver = .reference "next" "Node" ["Node"] "storage_"
  root : fieldResult? schema s queryType "component" .root [("id", .text "0x1")] =
    some (.ok (.one (.record c)))
  own : fieldResult? schema s Component.typeName "storage" (.record c) [] =
    some (.ok (.one (.record selfRecord)))

def faultMessage? : Option (Except AnswerFault Found) → Option String
  | some (.error fault) => some fault.message
  | _ => none

theorem exists_of_faultMessage?_eq_some {result? : Option (Except AnswerFault Found)}
    {message : String} (h : faultMessage? result? = some message) :
    ∃ fault, result? = some (.error fault) ∧ fault.message = message := by
  unfold faultMessage? at h
  split at h
  · next fault => exact ⟨fault, rfl, Option.some.inj h⟩
  · simp at h

/-- What of all this can be computed, with the message of the reference if it fails. -/
def rootFinds? (s : Store) : Option (Resolver × Record × Option String) := do
  let schema ← (Schema.ofStore selfReferenceInTexts "storage_").toOption
  let owner ← schema.lookup "Node"
  let f ← Schema.field? owner "next"
  let c ← foundRecord? (fieldResult? schema s queryType "component" .root [("id", .text "0x1")])
  let r ← foundRecord? (fieldResult? schema s Component.typeName "storage" (.record c) [])
  let next? := fieldResult? schema s "Node" "next" (.record selfRecord) []
  return (f.resolver, r, faultMessage? next?)

theorem exists_rootFinds {s : Store} {message? : Option String} (h : rootFinds? s =
      some (.reference "next" "Node" ["Node"] "storage_", selfRecord, message?)) :
    ∃ schema owner f c, RootFinds s schema owner f c ∧
      faultMessage? (fieldResult? schema s "Node" "next" (.record selfRecord) []) = message? := by
  obtain ⟨schema, hschema, h⟩ := Option.bind_eq_some_iff.mp h
  obtain ⟨owner, howner, h⟩ := Option.bind_eq_some_iff.mp h
  obtain ⟨f, hf, h⟩ := Option.bind_eq_some_iff.mp h
  obtain ⟨c, hc, h⟩ := Option.bind_eq_some_iff.mp h
  obtain ⟨r, hr, h⟩ := Option.bind_eq_some_iff.mp h
  obtain ⟨hresolver, h⟩ := Prod.mk.inj (Option.some.inj h)
  obtain ⟨rfl, hmessage⟩ := Prod.mk.inj h
  exact ⟨schema, owner, f, c, ⟨toOption_eq_some_iff.mp hschema, howner, hf, hresolver,
    foundRecord?_eq_some_iff.mp hc, foundRecord?_eq_some_iff.mp hr⟩, hmessage⟩

end Worlds

/-- The record of a component that refers to itself leads to itself. -/
theorem reference_to_itself :
    ∃ schema owner f c, RootFinds selfReferenceInTexts schema owner f c ∧ ¬Wrapped (unquote "0x1") ∧
      fieldResult? schema selfReferenceInTexts "Node" "next" (.record selfRecord) [] =
        some (.ok (.one (.record selfRecord))) := by
  have hcomputed : rootFinds? selfReferenceInTexts =
      some (.reference "next" "Node" ["Node"] "storage_", selfRecord, none) := by
    decide +kernel
  obtain ⟨schema, owner, f, c, h, -⟩ := exists_rootFinds hcomputed
  have hid : unquote "0x1" = "0x1" := by decide +kernel
  have hquotes : ¬Wrapped (unquote "0x1") := unquote_eq_self_iff.mp (by rw [hid, hid])
  have htag : selfRecord.tag = some (typeName "Node") := by decide +kernel
  have hname : owner.name = "Node" := (mem_of_lookup h.owner_eq).1
  obtain ⟨root, reference, hroot, hreference, hagrees⟩ := references_agree_with_root h.built
    selfReferenceInTexts (hname ▸ h.owner_eq) h.field_eq h.resolver_eq selfRecord_refersTo hquotes
  obtain rfl := Option.some.inj (hroot.symm.trans h.root)
  have htexts : Component.KeptAsTexts selfReferenceInTexts (unquote "0x1") := by
    intro row hrow
    have hfound : Component.rowById selfReferenceInTexts Component.layoutColumns (unquote "0x1") =
        .ok (some [("name", .text "Node"),
          ("storage_definition", .text "next: Node, x: Felt")]) := by
      rw [hid]
      rfl
    obtain rfl := Option.some.inj (Except.ok.inj (hfound.symm.trans hrow))
    exact ⟨⟨_, rfl⟩, _, rfl⟩
  obtain ⟨own, hown, hfollows⟩ := hagrees.found htexts c rfl
  obtain rfl := Option.some.inj (hown.symm.trans h.own)
  rw [hname, hfollows.same selfRecord rfl htag] at hreference
  exact ⟨schema, owner, f, c, h, hquotes, hreference⟩

/-- If the name or the definition of that component is stored as bytes, the root finds what it found
before, and the reference fails although the record has the type that it asks for. -/
theorem reference_to_bytes :
    let fails (s : Store) (message : String) := ∃ schema owner f c,
      RootFinds s schema owner f c ∧ selfRecord.tag = some (typeName "Node") ∧
      ∃ fault, fieldResult? schema s "Node" "next" (.record selfRecord) [] = some (.error fault) ∧
        fault.message = message
    fails (selfReference (.blob "Node".toUTF8.toList) (.text "next: Node, x: Felt"))
        "cannot use a string pattern on a bytes-like object" ∧
      fails (selfReference (.text "Node") (.blob "next: Node, x: Felt".toUTF8.toList))
        "a bytes-like object is required, not 'str'" := by
  intro fails
  have htag : selfRecord.tag = some (typeName "Node") := by decide +kernel
  have hfails (s : Store) (message : String) (h : rootFinds? s =
      some (.reference "next" "Node" ["Node"] "storage_", selfRecord, some message)) :
      fails s message := by
    obtain ⟨schema, owner, f, c, hfinds, hmessage⟩ := exists_rootFinds h
    exact ⟨schema, owner, f, c, hfinds, htag, exists_of_faultMessage?_eq_some hmessage⟩
  exact ⟨hfails _ _ (by decide +kernel), hfails _ _ (by decide +kernel)⟩

end Query

end WorldQuery
