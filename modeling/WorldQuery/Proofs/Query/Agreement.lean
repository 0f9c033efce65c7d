import WorldQuery.Proofs.Discovery.Rows
import WorldQuery.Proofs.Query.Drift
import WorldQuery.Proofs.Query.Soundness

/-!
# Discovery and resolution agree

A component row is resolved by its own definition, while discovery has looked at all definitions of
its name and at fewer and fewer record types. On the store from which a schema was built the two
agree, `storage_agrees`: the storage of a row is a parse fault if discovery skipped its name, and
otherwise its record is tagged with a member of the union. A reference to the row by its id meets
the same fault, unless the id is stored in bytes and so is not found, as in `ghost_not_found`.
-/

namespace WorldQuery

open Name Success

/-- A storage definition that cannot be read. -/
def Fault.IsLayout : Fault → Prop
  | .layout _ | .layoutOfUnnamed _ _ => True
  | _ => False

theorem Storage.layoutOf_of_unreadable {known : List String} {d : Datum}
    (h : Discovery.Unreadable known d) (name : Datum) :
    ∃ fault, layoutOf known name d = .error fault ∧ fault.IsLayout := by
  obtain ⟨text, htext, hnone⟩ := h
  have hread (owner : String) (wrap : LayoutFault → Fault) (hwrap : ∀ f, (wrap f).IsLayout) :
      ∃ fault, (Layout.read known owner text).mapError wrap = .error fault ∧ fault.IsLayout := by
    cases hread : Layout.read known owner text with
    | error fault => exact ⟨wrap fault, rfl, hwrap fault⟩
    | ok layout => exact absurd (Layout.read_eq_ok_iff.mp hread) (hnone layout)
  unfold layoutOf
  rw [htext]
  cases name with
  | text owner => exact hread owner .layout fun _ => trivial
  | _ => exact hread _ (.layoutOfUnnamed _) fun _ => trivial

namespace Query

/-- How the storage of a component row is resolved, if discovery knew some names of its store. -/
structure Agrees (s : Store) (schema : Schema) (known : List String) (resolver : Resolver)
    (t : Table) (selected : List Nat) (row : StoredRow) (name : String) : Prop where
  /-- Whichever store is asked, a record of a skipped name has no storage but a parse fault. -/
  skipped : name ∉ known → ∀ c, Component.ofRow (Component.pick t selected row) = .ok c →
    ∀ store round args, ∃ fault,
      (resolve schema (some store) Component.typeName (.record c) round args resolver).result =
        .error (.fetch (.layout fault))
  /-- So it is for a reference to it by its id, if that is stored as a text which no other row has.
  By an id that is stored in bytes nothing is found. -/
  skipped_id : name ∉ known → ∀ idAt id, t.position "id" = .ok idAt →
    Component.readText (some (Table.cell row idAt)) = .ok id →
    (∀ other ∈ t.rows, Table.cell other idAt = .text id → other = row) → unquote id = id →
      ∀ tablePrefix,
        (Table.cell row idAt = .text id → ∃ fault,
          Storage.ofComponent s tablePrefix known id = .error fault ∧ fault.IsLayout) ∧
        (Table.cell row idAt ≠ .text id → Storage.ofComponent s tablePrefix known id = .ok none)
  /-- A record of a kept name is tagged with a member of the union. -/
  kept : name ∈ known → ∀ c, Component.ofRow (Component.pick t selected row) = .ok c →
    ∀ store round args r,
      (resolve schema (some store) Component.typeName (.record c) round args resolver).result =
        .ok (.one (.record r)) → ∃ tag ∈ schema.storageTypes, r.tag = some tag

variable {s : Store} {tablePrefix : String} {schema : Schema} {t : Table} {selected : List Nat}
  {row : StoredRow}

theorem resolve_storage_of_unreadable {known : List String} {c : Record}
    {id name definition : String} (hid : c.get? "id" = some (.text id))
    (hname : c.get? "name" = some (.text name))
    (hdefinition : c.get? "storageDefinition" = some (.text definition)) {fault : LayoutFault}
    (hread : Layout.read known name definition = .error fault) (store? : Option Store) (round : Nat)
    (args : Variables) :
    (resolve schema store? Component.typeName (.record c) round args
      (.storage known tablePrefix)).result = .error (.fetch (.layout fault)) := by
  have hask : Resolver.askStorage known tablePrefix c = .error (.layout fault) := by
    unfold Resolver.askStorage Resolver.text
    rw [extractText_eq_ok_iff.mpr hid, extractText_eq_ok_iff.mpr hdefinition,
      extractText_eq_ok_iff.mpr hname]
    change ((Layout.read known name definition).mapError Fault.layout >>= _) = _
    rw [hread]
    rfl
  simp [resolve, Resolver.inquire, hask, Except.map, Except.mapError]

theorem tag_of_resolve_storage {known : List String} {c r : Record} {store : Store} {round : Nat}
    {args : Variables}
    (h : (resolve schema (some store) Component.typeName (.record c) round args
      (.storage known tablePrefix)).result = .ok (.one (.record r))) {name : String}
    (hname : c.get? "name" = some (.text name)) : r.tag = some (typeName name) := by
  obtain ⟨component, id, name', layout, r', hc, -, hname', hr, hbyColumn⟩ :=
    resolve_storage h (.one _)
  obtain rfl := Source.record.inj hc
  obtain rfl := Source.record.inj hr
  obtain rfl : name = name' := by simpa [hname] using hname'
  exact Storage.byColumn_tag hbyColumn

/-- Discovery and resolution agree on every row that can be read. -/
theorem storage_agrees (hschema : Schema.ofStore s tablePrefix = .ok schema)
    (hne : schema.storageTypes ≠ []) (ht : s.table Component.tableName = .ok t)
    (hstored : t.Stored) (hselected : Component.positions t Component.columns = .ok selected)
    (hrow : row ∈ t.rows) (hvalid : Component.Valid (Component.pick t selected row)) {name : String}
    (hname : Component.readText (Assoc.get? (Component.pick t selected row) "name") = .ok name) :
    ∃ storage owner f, Discovery.ofStore s tablePrefix = .ok storage ∧
      schema.lookup Component.typeName = some owner ∧ owner.field? "storage" = some f ∧
        Agrees s schema (storage.filterMap ObjectDef.declaredName?) f.resolver t selected row
          name := by
  obtain ⟨storage, found, hstorage, hknown, hshaped⟩ := Schema.ofStore_shaped hschema
  have hkeys : Assoc.keys found ≠ [] := by
    rintro hnil
    rw [Schema.storageTypes_eq hshaped, hnil] at hne
    exact hne rfl
  have hfield : (Schema.componentType (Assoc.keys found) tablePrefix).field? "storage" =
      some (Schema.storageField (Assoc.keys found) tablePrefix) :=
    (field?_of_not_meta (by decide)).symm.trans (field?_storage tablePrefix hkeys)
  refine ⟨storage, _, _, hstorage, Schema.lookup_component hshaped, hfield, ?_⟩
  rw [hknown]
  obtain ⟨definition, hdefinition⟩ :=
    hvalid.1 ("storage_definition", "storageDefinition") (by decide)
  obtain ⟨nameAt, hnameAt, -, hnameCell⟩ :=
    Component.exists_cell_of_readText hselected (by decide) hname
  obtain ⟨definitionAt, hdefinitionAt, -, hdefinitionCell⟩ :=
    Component.exists_cell_of_readText hselected (by decide) hdefinition
  -- discovery is asked about the cell itself, the resolver about the text that the record has for it
  have hunreadable : name ∉ Assoc.keys found →
      Discovery.Unreadable (Assoc.keys found) (Table.cell row definitionAt) := by
    rw [← hknown]
    exact Discovery.unreadable_of_skipped hstorage ht hstored hrow hnameAt hdefinitionAt hnameCell
      hdefinitionCell
  have hget : ∀ c, Component.ofRow (Component.pick t selected row) = .ok c →
      ∀ entry ∈ Component.textColumns, ∀ text,
        Component.readText (Assoc.get? (Component.pick t selected row) entry.1) = .ok text →
          c.get? entry.2 = some (.text text) :=
    fun _ hc _ hentry _ => Component.get?_of_readText hc hentry
  constructor
  case skipped =>
    intro hskipped c hc store round args
    obtain ⟨id, hid⟩ := hvalid.1 ("id", "id") (by decide)
    obtain ⟨fault, hread⟩ := (hunreadable hskipped).read_eq_error hdefinitionCell name
    exact ⟨fault, resolve_storage_of_unreadable (hget c hc ("id", "id") (by decide) id hid)
      (hget c hc ("name", "name") (by decide) name hname)
      (hget c hc ("storage_definition", "storageDefinition") (by decide) definition hdefinition)
      hread (some store) round args⟩
  case skipped_id =>
    intro hskipped idAt id hidAt hread hunique hunquoted tablePrefix
    have hlayout : Component.positions t Component.layoutColumns = .ok [nameAt, definitionAt] :=
      Component.positions_layoutColumns_eq_ok_iff.mpr ⟨_, _, hnameAt, hdefinitionAt, rfl⟩
    unfold Storage.ofComponent
    rw [hunquoted]
    constructor
    · intro hid
      obtain ⟨fault, hfault, hcause⟩ :=
        Storage.layoutOf_of_unreadable (hunreadable hskipped) (Table.cell row nameAt)
      refine ⟨fault, ?_, hcause⟩
      rw [Component.rowById_of_unique ht hlayout hidAt hrow hid hunique]
      change (Storage.layoutOf _ (Table.cell row nameAt) (Table.cell row definitionAt) >>= _) = _
      rw [hfault]
      rfl
    · intro hid
      have habsent : ∀ other ∈ t.rows, Table.cell other idAt ≠ .text id := by
        intro other hother htext
        rw [hunique other hother htext] at htext
        exact hid htext
      rw [Component.rowById_of_absent ht hlayout hidAt habsent]
      rfl
  case kept =>
    intro hkept c hc store round args r hr
    have htag := tag_of_resolve_storage hr (hget c hc ("name", "name") (by decide) name hname)
    refine ⟨typeName name, ?_, htag⟩
    rw [Schema.storageTypes_eq hshaped]
    exact List.mem_map_of_mem hkept

section Ghosts

/-- A row of a type that refers to one that no row declares. -/
def ghostRow (id : Datum) : StoredRow :=
  ⟨2, [id, .text "Ghost", .text "0x9", .text "0x8", .text "0x7", .text "at: Gone", .int 2]⟩

/-- A table of a component that can be read and one that cannot. -/
def ghostTable (id : Datum) : Table where
  name := "components"
  columns := Component.columns
  rows := [⟨1, [.text "0x1", .text "Position", .text "0x9", .text "0x8", .text "0x7",
    .text "x: Felt", .int 1]⟩, ghostRow id]

def ghostStore (id : Datum) : Store := ⟨[ghostTable id], true⟩

theorem table_ghostStore (id : Datum) :
    (ghostStore id).table Component.tableName = .ok (ghostTable id) :=
  Store.table_of_cons (Store.sameName_iff.mpr rfl)

theorem declares_ghostStore (id : Datum) :
    Component.Declares (ghostStore id) [("Position", "x: Felt"), ("Ghost", "at: Gone")] := by
  have hsorted : (ghostTable id).rows.Pairwise fun a b =>
      (Store.compareData (Table.cell a 6) (Table.cell b 6)).then
        (Store.compareData (Table.cell a 0) (Table.cell b 0)) ≠ .gt := by
    refine List.pairwise_pair.mpr ?_
    change Ordering.lt ≠ .gt
    decide
  have hrows : Component.rowsInOrder (ghostStore id) Component.layoutColumns = .ok _ :=
    Component.rowsInOrder_of_sorted (table_ghostStore id) rfl rfl rfl hsorted
  exact ⟨_, hrows, rfl⟩

theorem kept_ghostStore :
    Discovery.kept (Component.history [("Position", "x: Felt"), ("Ghost", "at: Gone")]) =
      [("Position", [("x", .scalar .felt)])] := by
  decide +kernel

theorem exists_schema_ghostStore (id : Datum) :
    ∃ schema, Schema.ofStore (ghostStore id) "storage_" = .ok schema ∧
      schema.storageTypes = ["Position"] := by
  have hadmissible : Schema.Admissible ["Position"] := by decide +kernel
  obtain ⟨schema, hschema, hshaped⟩ : ∃ schema,
      Schema.ofStore (ghostStore id) "storage_" = .ok schema ∧ Schema.Shaped _ "storage_" schema :=
    Schema.exists_ofStore_shaped (declares_ghostStore id) (kept_ghostStore ▸ hadmissible)
  refine ⟨schema, hschema, ?_⟩
  rw [Schema.storageTypes_eq hshaped, kept_ghostStore]
  decide +kernel

theorem valid_ghostRow {id : Datum} {text : String}
    (hid : Component.readText (some id) = .ok text) :
    Component.Valid (Component.pick (ghostTable id) [0, 1, 2, 3, 4, 5, 6] (ghostRow id)) := by
  change Component.Valid (Component.columns.zip (ghostRow id).data)
  have hstamp : Component.readStamp (some (.int 2)) = .ok _ := rfl
  exact Component.valid_zip hid hstamp

theorem stored_ghostTable {id : Datum} (hid : id.IsStored) : (ghostTable id).Stored := by
  intro row hrow
  rcases List.mem_pair.mp hrow with rfl | rfl
  · simp [Datum.IsStored]
  · simp only [ghostRow, List.forall_mem_cons]
    exact ⟨hid, trivial, trivial, trivial, trivial, trivial, trivial, by simp⟩

/-- A type that refers to one that no row declares is skipped. A reference to its row by the id of
the row fails if the id is stored as a text, and finds nothing if it is stored in bytes. -/
theorem storage_agrees_on_ghost :
    (∃ fault, Storage.ofComponent (ghostStore (.text "0x2")) "storage_" ["Position"] "0x2" =
      .error fault ∧ fault.IsLayout) ∧
    Storage.ofComponent (ghostStore (.blob "0x2".toUTF8.toList)) "storage_" ["Position"] "0x2" =
      .ok none := by
  have hagrees (id : Datum) (hstored : id.IsStored)
      (hid : Component.readText (some id) = .ok "0x2") :
      ∃ schema resolver, Agrees (ghostStore id) schema ["Position"] resolver (ghostTable id)
        [0, 1, 2, 3, 4, 5, 6] (ghostRow id) "Ghost" := by
    obtain ⟨schema, hschema, htypes⟩ := exists_schema_ghostStore id
    have hne : schema.storageTypes ≠ [] := by
      rw [htypes]
      exact List.cons_ne_nil _ _
    have hname : Component.readText (Assoc.get? (Component.pick (ghostTable id)
        [0, 1, 2, 3, 4, 5, 6] (ghostRow id)) "name") = .ok "Ghost" := rfl
    obtain ⟨storage, owner, f, hstorage, -, -, hagrees⟩ := storage_agrees hschema hne
      (table_ghostStore id) (stored_ghostTable hstored) rfl
      (List.mem_cons_of_mem _ List.mem_cons_self)
      (valid_ghostRow hid) hname
    have hknown : storage.filterMap ObjectDef.declaredName? = ["Position"] := by
      obtain rfl := Except.ok.inj (hstorage.symm.trans
        (Discovery.ofStore_of_declares (declares_ghostStore id) "storage_"))
      rw [Discovery.filterMap_declaredName?_objects, kept_ghostStore]
      rfl
    rw [hknown] at hagrees
    exact ⟨schema, _, hagrees⟩
  constructor
  · obtain ⟨schema, resolver, h⟩ := hagrees (.text "0x2") trivial rfl
    have hunique : ∀ other ∈ (ghostTable (.text "0x2")).rows,
        Table.cell other 0 = .text "0x2" → other = ghostRow (.text "0x2") := by
      simp [ghostTable, ghostRow, Table.cell]
    exact (h.skipped_id (by decide) 0 "0x2" rfl rfl hunique (by decide +kernel) "storage_").1 rfl
  · obtain ⟨schema, resolver, h⟩ := hagrees (.blob "0x2".toUTF8.toList) trivial (by decide +kernel)
    have hunique : ∀ other ∈ (ghostTable (.blob "0x2".toUTF8.toList)).rows,
        Table.cell other 0 = .text "0x2" → other = ghostRow (.blob "0x2".toUTF8.toList) := by
      simp [ghostTable, ghostRow, Table.cell]
    refine (h.skipped_id (by decide) 0 "0x2" rfl (by decide +kernel) hunique (by decide +kernel)
      "storage_").2 ?_
    intro hid
    cases hid

/-- A row of a skipped name, with an id of its own that is not quoted, which is not found by it. -/
theorem ghost_not_found :
    let id := Datum.blob "0x2".toUTF8.toList
    let named (row : StoredRow) (column text : String) : Prop :=
      Component.readText (Assoc.get? (Component.pick (ghostTable id) [0, 1, 2, 3, 4, 5, 6] row)
        column) = .ok text
    (∃ schema, Schema.ofStore (ghostStore id) "storage_" = .ok schema ∧
      schema.storageTypes = ["Position"]) ∧
    (ghostStore id).table Component.tableName = .ok (ghostTable id) ∧
    Component.positions (ghostTable id) Component.columns = .ok [0, 1, 2, 3, 4, 5, 6] ∧
    Component.Valid (Component.pick (ghostTable id) [0, 1, 2, 3, 4, 5, 6] (ghostRow id)) ∧
    named (ghostRow id) "name" "Ghost" ∧ named (ghostRow id) "id" "0x2" ∧
    (∀ other ∈ (ghostTable id).rows, named other "id" "0x2" → other = ghostRow id) ∧
    unquote "0x2" = "0x2" ∧
    Storage.ofComponent (ghostStore id) "storage_" ["Position"] "0x2" = .ok none := by
  intro id named
  have hid : Component.readText (some id) = .ok "0x2" := by decide +kernel
  have hunique : ∀ other ∈ (ghostTable id).rows, named other "id" "0x2" → other = ghostRow id := by
    intro other hother hnamed
    rcases List.mem_pair.mp hother with rfl | rfl
    · have hone : (Except.ok "0x1" : Except IssueKind String) = .ok "0x2" := hnamed
      simp at hone
    · rfl
  have habsent : ∀ row ∈ (ghostTable id).rows, Table.cell row 0 ≠ .text "0x2" := by
    simp [ghostTable, ghostRow, Table.cell, id]
  have hunquoted : unquote "0x2" = "0x2" := by decide +kernel
  refine ⟨exists_schema_ghostStore id, table_ghostStore id, rfl, valid_ghostRow hid, rfl, hid,
    hunique, hunquoted, ?_⟩
  unfold Storage.ofComponent
  rw [hunquoted, Component.rowById_of_absent (table_ghostStore id) rfl rfl habsent]
  rfl

end Ghosts

end Query

end WorldQuery
