import WorldQuery.Proofs.Name.Quotes
import WorldQuery.Proofs.Query.Drift
import WorldQuery.Proofs.Query.Soundness

/-!
# Whose rows components are answered with

The id of a component travels from an argument or a row to the statement that fetches its storage.
Every layer may take quotes off it, but only the statement does so to the id in the record: a
component is answered with a row that belongs to its own id without the quotes around it.
-/

namespace WorldQuery

open Name Success

/-- A row belongs to an owner: the column of owners has the id. In a table without that column every
row belongs to the id that is what the column is called. -/
def Table.Belongs (t : Table) (row : StoredRow) (owner : String) : Prop :=
  match t.position? Storage.ownerColumn with
  | some i => Table.cell row i = .text owner
  | none => owner = Storage.ownerColumn

theorem Table.belongs_of_holds {t : Table} {row : StoredRow} {owner : String}
    (h : t.holds row Storage.ownerColumn (.text owner) = true) : t.Belongs row owner := by
  have hnumber : Table.numberNames.any (Store.sameName · Storage.ownerColumn) = false := by
    decide +kernel
  unfold Table.holds Table.quotedCell Table.quotedMeaning at h
  unfold Table.Belongs
  cases hposition : t.position? Storage.ownerColumn with
  | some i =>
    simp only [hposition] at h
    exact Store.eq_text_of_equalData h
  | none =>
    simp only [hposition, hnumber] at h
    exact (Datum.text.inj (Store.eq_text_of_equalData h)).symm

/-- A record was decoded from a row that belongs to an owner, in the storage table of a name. -/
def Storage.FetchedFor (s : Store) (tablePrefix name owner : String) (r : Record) : Prop :=
  ∃ t row layout, s.table (Statement.spelled (tableName tablePrefix name)) = .ok t ∧
    row ∈ t.rows ∧ t.Belongs row owner ∧
    decodeRow absentColumn ((Assoc.keys layout).map (t.quotedCell row)) layout
      (some (typeName name)) = .ok r

theorem Storage.byColumn_fetchedFor {s : Store} {tablePrefix id name : String} {layout : Layout}
    {r : Record} (h : byColumn s tablePrefix ownerColumn id name layout = .ok (some r)) :
    FetchedFor s tablePrefix name (unquote id) r := by
  obtain ⟨t, row, ht, hrow, hholds, hr⟩ := byColumn_eq_some h
  rw [spelled_ownerColumn] at hholds
  exact ⟨t, row, layout, ht, hrow, Table.belongs_of_holds hholds, hr⟩

theorem Component.Recorded.exists_listed {s : Store} {c : Record} (h : Recorded s c) :
    ∃ id name, c.get? "id" = some (.text id) ∧ c.get? "name" = some (.text name) ∧
      Listed s id name := by
  obtain ⟨t, row, selected, -, -, -, hc⟩ := id h
  obtain ⟨-, htexts⟩ := ofRow_eq_ok hc
  obtain ⟨id, -, hid⟩ := htexts ("id", "id") (by decide)
  obtain ⟨name, -, hname⟩ := htexts ("name", "name") (by decide)
  exact ⟨id, name, hid, hname, h.listed hid hname⟩

namespace Query

open Schema

theorem resolver_of_storage {found : List (String × Layout)} {tablePrefix : String}
    {schema : Schema} (h : Shaped found tablePrefix schema) {owner : TypeDef} {f : FieldDef}
    (howner : schema.lookup Component.typeName = some owner)
    (hf : Schema.field? owner "storage" = some f) :
    f.resolver = .storage (Assoc.keys found) tablePrefix := by
  obtain rfl := Option.some.inj ((lookup_component h).symm.trans howner)
  by_cases hne : Assoc.keys found = []
  · have hnone : Schema.field? (componentType [] tablePrefix) "storage" = none := rfl
    rw [hne, hnone] at hf
    simp at hf
  · rw [field?_storage tablePrefix hne] at hf
    obtain rfl := Option.some.inj hf
    rfl

/-- Whatever a query is and the store has become, a component in its answer is one that the store
lists, and the storage that it resolves to was decoded from a row of its own: one that belongs to
its id, or, if its id is in quotes, to what is between them. -/
theorem components_answered_with_own_rows {built : Store} {tablePrefix : String} {schema : Schema}
    (h : Schema.ofStore built tablePrefix = .ok schema) (s : Store) (doc : Document)
    (vars : Variables) (selections : List Selection) :
    ∀ c, (Component.typeName, .record c) ∈
        (Execution.run ⟨schema, doc, vars, some s⟩ selections).nodes →
      ∃ id name, c.get? "id" = some (.text id) ∧ c.get? "name" = some (.text name) ∧
        Component.Listed s id name ∧
        ∀ args r, fieldResult? schema s Component.typeName "storage" (.record c) args =
            some (.ok (.one (.record r))) →
          ∃ own, (Wraps id own ∨ ¬Wrapped id ∧ id = own) ∧
            Storage.FetchedFor s tablePrefix name own r := by
  obtain ⟨-, found, -, -, hshaped⟩ := ofStore_shaped h
  intro c hc
  have hrecorded : Component.Recorded s c := by
    have hrecord := (run_fits hshaped hc).2
    rwa [if_pos rfl] at hrecord
  obtain ⟨id, name, hid, hname, hlisted⟩ := hrecorded.exists_listed
  refine ⟨id, name, hid, hname, hlisted, ?_⟩
  intro args r hresult
  obtain ⟨owner, howner, hresult⟩ := Option.bind_eq_some_iff.mp hresult
  obtain ⟨f, hf, hresult⟩ := Option.bind_eq_some_iff.mp hresult
  rw [resolver_of_storage hshaped howner hf] at hresult
  obtain ⟨c', id', name', layout, r', hc', hid', hname', hr', hfetched⟩ :=
    resolve_storage (Option.some.inj hresult) (.one _)
  obtain rfl := Source.record.inj hc'
  obtain rfl := Source.record.inj hr'
  obtain rfl : id = id' := by simpa [hid] using hid'
  obtain rfl : name = name' := by simpa [hname] using hname'
  exact ⟨unquote id, unquote_eq_iff.mp rfl, Storage.byColumn_fetchedFor hfetched⟩

section Worlds

/-- A world of one component, with one row in its storage table. -/
def oneComponent (id : String) (columns : List String) (row : List Datum) : Store :=
  (Store.empty.create "components" Component.columns
    [[.text id, .text "Position", .text "0x9", .text "0x8", .text "0x7", .text "x: Felt",
      .int 1]]).create "storage_position" columns [row]

def positionsOfAll : List Selection :=
  [.field none "components" [] [] [.field none "id" [] [] [],
    .field none "storage" [] [] [.group (some "Position") [] [.field none "x" [] [] []]]]]

/-- In a store with a schema of its own a component of an id is answered with a record. -/
def AnsweredWith (s : Store) (selections : List Selection) (id : String) (r : Record) : Prop :=
  ∃ schema c, Schema.ofStore s "storage_" = .ok schema ∧
    (Component.typeName, .record c) ∈ (Execution.run
      ⟨schema, [.operation ⟨.query, none, [], [], selections⟩], [], some s⟩ selections).nodes ∧
    c.get? "id" = some (.text id) ∧
    fieldResult? schema s Component.typeName "storage" (.record c) [] =
      some (.ok (.one (.record r)))

/-- The records that the components of an id are answered with. -/
def answersOf (s : Store) (selections : List Selection) (id : String) : List Record :=
  match Schema.ofStore s "storage_" with
  | .error _ => []
  | .ok schema =>
    (Execution.run ⟨schema, [.operation ⟨.query, none, [], [], selections⟩], [], some s⟩
      selections).records.filterMap fun (type, c) =>
        if type = Component.typeName ∧ c.get? "id" = some (.text id) then
          foundRecord? (fieldResult? schema s Component.typeName "storage" (.record c) [])
        else none

theorem answeredWith_of_mem {s : Store} {selections : List Selection} {id : String} {r : Record}
    (h : r ∈ answersOf s selections id) : AnsweredWith s selections id r := by
  unfold answersOf at h
  cases hschema : Schema.ofStore s "storage_" with
  | error fault => simp [hschema] at h
  | ok schema =>
    rw [hschema] at h
    obtain ⟨⟨type, c⟩, hc, h⟩ := List.mem_filterMap.mp h
    dsimp only at h
    split_ifs at h with hcomponent
    obtain ⟨rfl, hid⟩ := hcomponent
    exact ⟨schema, c, hschema, Outcome.mem_records.mp hc, hid, foundRecord?_eq_some_iff.mp h⟩

end Worlds

/-- The only component of a world may be answered with a record although no row has its id in a
column of owners: if the id is in quotes, or is what the column is called and there is none. -/
theorem components_answered_with_other_rows :
    let r : Record := ⟨[("x", .text "0x5")], some "Position"⟩
    let answered (s : Store) (id : String) := AnsweredWith s positionsOfAll id r ∧
      ∀ t ∈ s.tables, ∀ row ∈ t.rows, ∀ i ∈ t.position? Storage.ownerColumn,
        Table.cell row i ≠ .text id
    answered (oneComponent "\"0x1\"" ["component_id", "x"] [.text "0x1", .text "0x5"]) "\"0x1\"" ∧
      answered (oneComponent "component_id" ["x"] [.text "0x5"]) "component_id" := by
  intro r answered
  have hapart (s : Store) (id : String) (h : ∀ t ∈ s.tables, ∀ row ∈ t.rows,
      ∀ i ∈ t.position? Storage.ownerColumn,
        Store.equalData (Table.cell row i) (.text id) = false) :
      ∀ t ∈ s.tables, ∀ row ∈ t.rows, ∀ i ∈ t.position? Storage.ownerColumn,
        Table.cell row i ≠ .text id := by
    intro t ht row hrow i hi heq
    have hother := h t ht row hrow i hi
    rw [heq, Store.equalData_text_self] at hother
    exact absurd hother (by decide)
  exact ⟨⟨answeredWith_of_mem (by decide +kernel), hapart _ _ (by decide +kernel)⟩,
    answeredWith_of_mem (by decide +kernel), hapart _ _ (by decide +kernel)⟩

/-- The answer of a component whose id is in quotes is decoded from a row of the id between them. -/
theorem component_in_quotes_answered_with_row :
    let s := oneComponent "\"0x1\"" ["component_id", "x"] [.text "0x1", .text "0x5"]
    let r : Record := ⟨[("x", .text "0x5")], some "Position"⟩
    AnsweredWith s positionsOfAll "\"0x1\"" r ∧
      ∃ name, Storage.FetchedFor s "storage_" name "0x1" r := by
  intro s r
  have hanswered : AnsweredWith s positionsOfAll "\"0x1\"" r :=
    answeredWith_of_mem (by decide +kernel)
  refine ⟨hanswered, ?_⟩
  obtain ⟨schema, c, hschema, hc, hid, hr⟩ := hanswered
  obtain ⟨id, name, hid', -, -, hstorage⟩ :=
    components_answered_with_own_rows hschema s _ [] positionsOfAll c hc
  obtain rfl : "\"0x1\"" = id := by simpa [hid] using hid'
  obtain ⟨own, hown, hfetched⟩ := hstorage [] r hr
  obtain rfl : "0x1" = own := Eq.trans (by decide +kernel) (unquote_eq_iff.mpr hown)
  exact ⟨name, hfetched⟩

end Query

end WorldQuery
