import WorldQuery.Component
import WorldQuery.Proofs.Assoc
import WorldQuery.Proofs.Component.History
import WorldQuery.Proofs.Success

/-!
# Where component records come from

A component record is a row of the table of components that passed its checks, and its texts are
what the columns of the row hold. `Component.Listed` says that the table has a row of an id and a
name, whichever columns of it are read.
-/

namespace WorldQuery

open Success

theorem Store.eq_text_of_equalData {d : Datum} {text : String}
    (h : Store.equalData d (.text text) = true) : d = .text text := by
  unfold Store.equalData at h
  rw [Bool.and_eq_true] at h
  exact Datum.beq_text_iff.mp h.2

theorem Store.equalData_text_self (text : String) :
    Store.equalData (.text text) (.text text) = true := by
  unfold Store.equalData
  rw [Bool.and_eq_true]
  exact ⟨rfl, Datum.beq_text_iff.mpr rfl⟩

namespace Component

variable {s : Store} {t : Table} {names : List String} {selected : List Nat}

/-- The table of components has a row of an id and a name. -/
def Listed (s : Store) (id name : String) : Prop :=
  ∃ t row idAt nameAt, s.table tableName = .ok t ∧ row ∈ t.rows ∧ t.position "id" = .ok idAt ∧
    t.position "name" = .ok nameAt ∧ readText (some (Table.cell row idAt)) = .ok id ∧
    readText (some (Table.cell row nameAt)) = .ok name

/-- A record is a row of the table of components that passed its checks. -/
def Recorded (s : Store) (r : Record) : Prop :=
  ∃ t row selected, s.table tableName = .ok t ∧ positions t columns = .ok selected ∧
    row ∈ t.rows ∧ ofRow (pick t selected row) = .ok r

/-! ### Reading rows -/

theorem position_eq_ok {column : String} {i : Nat} (h : t.position column = .ok i) :
    Store.sameName (t.columns.getD i "") column = true := by
  unfold Table.position Table.position? at h
  cases hfind : t.columns.findIdx? (Store.sameName · column) with
  | none => simp [hfind] at h
  | some j =>
    simp only [hfind, Except.ok.injEq] at h
    subst h
    obtain ⟨hj, hsame, -⟩ := List.findIdx?_eq_some_iff_getElem.mp hfind
    simpa [List.getD_eq_getElem?_getD, List.getElem?_eq_getElem hj] using hsame

theorem get?_pick {column : String} {row : StoredRow} {d : Datum}
    (hselected : positions t names = .ok selected) (hcolumn : column ∈ names)
    (hdistinct : ∀ a ∈ names, ∀ b ∈ names, Store.sameName a b = true → a = b)
    (h : Assoc.get? (pick t selected row) column = some d) :
    ∃ i, t.position column = .ok i ∧ d = Table.cell row i := by
  obtain ⟨i, hi, heq⟩ := List.mem_map.mp (Assoc.mem_of_get? h)
  obtain ⟨hname, rfl⟩ := Prod.mk.inj heq
  have hall := mapM_eq_ok_iff.mp hselected
  obtain ⟨k, hk, rfl⟩ := List.getElem_of_mem hi
  have hk' : k < names.length := hall.length_eq ▸ hk
  have hposition : t.position names[k] = .ok selected[k] := hall.get hk' hk
  have hsame := position_eq_ok hposition
  rw [hname] at hsame
  rw [hdistinct column hcolumn names[k] (List.getElem_mem hk') hsame]
  exact ⟨_, hposition, rfl⟩

theorem columns_distinct : ∀ a ∈ columns, ∀ b ∈ columns, Store.sameName a b = true → a = b := by
  decide +kernel

theorem cell_of_get? {column : String} {i : Nat} {row : StoredRow} {d : Datum}
    (hselected : positions t columns = .ok selected) (hcolumn : column ∈ columns)
    (hi : t.position column = .ok i) (h : Assoc.get? (pick t selected row) column = some d) :
    Table.cell row i = d := by
  obtain ⟨j, hj, hcell⟩ := get?_pick hselected hcolumn columns_distinct h
  obtain rfl := Except.ok.inj (hi.symm.trans hj)
  exact hcell.symm

/-! ### Records of rows -/

theorem ofReading_eq_nil {α : Type} {field : String} {read : Except IssueKind α}
    (h : Issue.ofReading field read = []) : ∃ a, read = .ok a := by
  cases read with
  | ok a => exact ⟨a, rfl⟩
  | error kind => simp [Issue.ofReading] at h

/-- A row that passed has a text in every text column, and its record has the same text. -/
theorem ofRow_eq_ok {row : Row} {r : Record} (h : ofRow row = .ok r) :
    r.tag = some typeName ∧ ∀ entry ∈ textColumns, ∃ text,
      readText (Assoc.get? row entry.1) = .ok text ∧ r.get? entry.2 = some (.text text) := by
  unfold ofRow at h
  dsimp only at h
  split at h
  · next moment hstamp hissues =>
    obtain ⟨created, -, hr⟩ := bind_eq_ok_iff.mp h
    obtain rfl := pure_eq_ok_iff.mp hr
    refine ⟨rfl, fun entry hentry => ?_⟩
    have hread : ∃ text, readText (Assoc.get? row entry.1) = .ok text := by
      have hnone := List.flatten_eq_nil_iff.mp (List.append_eq_nil_iff.mp hissues).1
      refine ofReading_eq_nil (hnone (Issue.ofReading entry.1 _) ?_)
      exact List.mem_map.mpr ⟨_, List.mem_map.mpr ⟨entry, hentry, rfl⟩, rfl⟩
    obtain ⟨text, htext⟩ := hread
    refine ⟨text, htext, Assoc.get?_of_mem ?_ (List.mem_append_left _ ?_)⟩
    · have hkeys : (textColumns.map (·.2) ++ ["createdAt"]).Nodup := by decide
      simpa [Assoc.keys, Function.comp_def] using hkeys
    · refine List.mem_map.mpr ⟨_, List.mem_map.mpr ⟨entry, hentry, rfl⟩, ?_⟩
      rw [htext]
      rfl
  · simp at h

theorem get?_of_readText {row : Row} {r : Record} (h : ofRow row = .ok r)
    {entry : String × String} (hentry : entry ∈ textColumns) {text : String}
    (htext : readText (Assoc.get? row entry.1) = .ok text) : r.get? entry.2 = some (.text text) := by
  obtain ⟨text', htext', hvalue⟩ := (ofRow_eq_ok h).2 entry hentry
  obtain rfl := Except.ok.inj (htext.symm.trans htext')
  exact hvalue

theorem Recorded.tag_eq {r : Record} (h : Recorded s r) : r.tag = some typeName := by
  obtain ⟨t, row, selected, -, -, -, hr⟩ := h
  exact (ofRow_eq_ok hr).1

theorem Recorded.listed {r : Record} {id name : String} (h : Recorded s r)
    (hid : r.get? "id" = some (.text id)) (hname : r.get? "name" = some (.text name)) :
    Listed s id name := by
  obtain ⟨t, row, selected, ht, hselected, hrow, hr⟩ := h
  obtain ⟨-, htexts⟩ := ofRow_eq_ok hr
  have hcell : ∀ entry ∈ textColumns, ∀ text, r.get? entry.2 = some (.text text) →
      ∃ i, t.position entry.1 = .ok i ∧ readText (some (Table.cell row i)) = .ok text := by
    intro entry hentry text htext
    obtain ⟨read, hread, hvalue⟩ := htexts entry hentry
    obtain rfl : read = text := by simpa [htext] using hvalue.symm
    cases hget : Assoc.get? (pick t selected row) entry.1 with
    | none => simp [hget, readText] at hread
    | some d =>
      have hcolumn : entry.1 ∈ columns := List.mem_append_left _ (List.mem_map_of_mem hentry)
      obtain ⟨i, hi, rfl⟩ := get?_pick hselected hcolumn columns_distinct hget
      exact ⟨i, hi, hget ▸ hread⟩
  obtain ⟨idAt, hidAt, hidRead⟩ := hcell ("id", "id") (by decide) id hid
  obtain ⟨nameAt, hnameAt, hnameRead⟩ := hcell ("name", "name") (by decide) name hname
  exact ⟨t, row, idAt, nameAt, ht, hrow, hidAt, hnameAt, hidRead, hnameRead⟩

/-! ### Answers of the store -/

theorem positions_layoutColumns_eq_ok_iff : positions t layoutColumns = .ok selected ↔
    ∃ nameAt definitionAt, t.position "name" = .ok nameAt ∧
      t.position "storage_definition" = .ok definitionAt ∧ selected = [nameAt, definitionAt] := by
  constructor
  · intro h
    obtain ⟨nameAt, rest, hnameAt, hrest, rfl⟩ :=
      List.forall₂_cons_left_iff.mp (mapM_eq_ok_iff.mp h)
    obtain ⟨definitionAt, none, hdefinitionAt, hnone, rfl⟩ := List.forall₂_cons_left_iff.mp hrest
    obtain rfl := List.forall₂_nil_left_iff.mp hnone
    exact ⟨nameAt, definitionAt, hnameAt, hdefinitionAt, rfl⟩
  · rintro ⟨nameAt, definitionAt, hnameAt, hdefinitionAt, rfl⟩
    exact mapM_eq_ok_iff.mpr (.cons hnameAt (.cons hdefinitionAt .nil))

theorem rowById_eq_ok_iff {id : String} {row? : Option Row} :
    rowById s names id = .ok row? ↔ ∃ t selected key, s.table tableName = .ok t ∧
      positions t names = .ok selected ∧ t.position "id" = .ok key ∧
      (t.rows.find? fun row => Store.equalData (Table.cell row key) (.text id)).map
        (pick t selected) = row? := by
  unfold rowById
  simp only [bind_eq_ok_iff, pure_eq_ok_iff]
  constructor
  · rintro ⟨t, ht, selected, hselected, key, hkey, hrow⟩
    exact ⟨t, selected, key, ht, hselected, hkey, hrow⟩
  · rintro ⟨t, selected, key, ht, hselected, hkey, hrow⟩
    exact ⟨t, ht, selected, hselected, key, hkey, hrow⟩

theorem rowById_eq_some {id : String} {row : Row} (h : rowById s names id = .ok (some row)) :
    ∃ t stored selected key, s.table tableName = .ok t ∧ positions t names = .ok selected ∧
      t.position "id" = .ok key ∧ stored ∈ t.rows ∧ Table.cell stored key = .text id ∧
      row = pick t selected stored := by
  obtain ⟨t, selected, key, ht, hselected, hkey, hrow⟩ := rowById_eq_ok_iff.mp h
  obtain ⟨stored, hfind, rfl⟩ := Option.map_eq_some_iff.mp hrow
  have hwanted := List.find?_some hfind
  exact ⟨t, stored, selected, key, ht, hselected, hkey, List.mem_of_find?_eq_some hfind,
    Store.eq_text_of_equalData hwanted, rfl⟩

section ById

variable (ht : s.table tableName = .ok t) (hselected : positions t names = .ok selected)
  {key : Nat} (hkey : t.position "id" = .ok key) {id : String}

include ht hselected hkey

theorem rowById_of_unique {row : StoredRow} (hrow : row ∈ t.rows)
    (hid : Table.cell row key = .text id)
    (hunique : ∀ other ∈ t.rows, Table.cell other key = .text id → other = row) :
    rowById s names id = .ok (some (pick t selected row)) := by
  refine rowById_eq_ok_iff.mpr ⟨t, selected, key, ht, hselected, hkey, ?_⟩
  cases hfind : t.rows.find? fun row => Store.equalData (Table.cell row key) (.text id) with
  | none =>
    have hnone := List.find?_eq_none.mp hfind row hrow
    rw [hid] at hnone
    exact absurd (Store.equalData_text_self id) hnone
  | some other =>
    have hwanted := List.find?_some hfind
    have hother : Table.cell other key = .text id := Store.eq_text_of_equalData hwanted
    rw [hunique other (List.mem_of_find?_eq_some hfind) hother]
    rfl

/-- Ids are texts: where no row has the text, none is found. -/
theorem rowById_of_absent (habsent : ∀ row ∈ t.rows, Table.cell row key ≠ .text id) :
    rowById s names id = .ok none := by
  refine rowById_eq_ok_iff.mpr ⟨t, selected, key, ht, hselected, hkey, ?_⟩
  rw [Option.map_eq_none_iff, List.find?_eq_none]
  intro row hrow hequal
  exact habsent row hrow (Store.eq_text_of_equalData hequal)

end ById

theorem byId_recorded {id : String} {r : Record} (h : byId s id = .ok (some r)) :
    Recorded s r := by
  unfold byId at h
  obtain ⟨found, hfound, h⟩ := bind_eq_ok_iff.mp h
  cases found with
  | none => simpa using pure_eq_ok_iff.mp h
  | some row =>
    obtain ⟨r', hr, h⟩ := bind_eq_ok_iff.mp h
    obtain rfl := Option.some.inj (pure_eq_ok_iff.mp h)
    obtain ⟨t, stored, selected, -, ht, hselected, -, hstored, -, rfl⟩ :=
      rowById_eq_some (mapError_eq_ok_iff.mp hfound)
    exact ⟨t, stored, selected, ht, hselected, hstored, hr⟩

theorem exists_rowsInOrder_iff : (∃ rows, rowsInOrder s names = .ok rows) ↔
    ∃ t selected stamp key, s.table tableName = .ok t ∧ positions t names = .ok selected ∧
      t.position stampColumn = .ok stamp ∧ t.position "id" = .ok key := by
  unfold rowsInOrder
  simp only [bind_eq_ok_iff, pure_eq_ok_iff]
  constructor
  · rintro ⟨rows, t, ht, selected, hselected, stamp, hstamp, key, hkey, -⟩
    exact ⟨t, selected, stamp, key, ht, hselected, hstamp, hkey⟩
  · rintro ⟨t, selected, stamp, key, ht, hselected, hstamp, hkey⟩
    exact ⟨_, t, ht, selected, hselected, stamp, hstamp, key, hkey, rfl⟩

theorem rowsInOrder_perm {rows : List Row} (h : rowsInOrder s names = .ok rows) :
    ∃ t selected, s.table tableName = .ok t ∧ positions t names = .ok selected ∧
      rows.Perm (t.rows.map (pick t selected)) := by
  unfold rowsInOrder at h
  simp only [bind_eq_ok_iff, pure_eq_ok_iff] at h
  obtain ⟨t, ht, selected, hselected, stamp, -, key, -, rfl⟩ := h
  exact ⟨t, selected, ht, hselected, (List.mergeSort_perm _ _).map _⟩

theorem rowsInOrder_eq_ok {rows : List Row} (h : rowsInOrder s names = .ok rows) :
    ∃ t selected, s.table tableName = .ok t ∧ positions t names = .ok selected ∧
      ∀ row ∈ rows, ∃ stored ∈ t.rows, row = pick t selected stored := by
  obtain ⟨t, selected, ht, hselected, hperm⟩ := rowsInOrder_perm h
  refine ⟨t, selected, ht, hselected, fun row hrow => ?_⟩
  obtain ⟨stored, hstored, rfl⟩ := List.mem_map.mp (hperm.subset hrow)
  exact ⟨stored, hstored, rfl⟩

theorem list_recorded {limit : Option Int} {records : List Record}
    (h : list s limit = .ok records) : ∀ r ∈ records, Recorded s r := by
  unfold list at h
  obtain ⟨rows, hrows, h⟩ := bind_eq_ok_iff.mp h
  obtain ⟨t, selected, ht, hselected, hall⟩ := rowsInOrder_eq_ok (mapError_eq_ok_iff.mp hrows)
  have hmapM : ∀ {chosen : List Row}, chosen ⊆ rows → chosen.mapM ofRow = .ok records →
      ∀ r ∈ records, Recorded s r := by
    intro chosen hsub hmap r hr
    have hforall := mapM_eq_ok_iff.mp hmap
    obtain ⟨k, hk, rfl⟩ := List.getElem_of_mem hr
    have hk' : k < chosen.length := hforall.length_eq ▸ hk
    obtain ⟨stored, hstored, heq⟩ := hall chosen[k] (hsub (List.getElem_mem hk'))
    exact ⟨t, stored, selected, ht, hselected, hstored, heq ▸ hforall.get hk' hk⟩
  cases limit with
  | none => exact hmapM (List.Subset.refl _) h
  | some n =>
    simp only at h
    split_ifs at h
    exact hmapM (List.take_subset _ _) h

end Component

end WorldQuery
