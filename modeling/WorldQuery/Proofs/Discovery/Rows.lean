import WorldQuery.Proofs.Component.Rows
import WorldQuery.Proofs.Discovery.Obstacles

/-!
# What discovery says of the rows behind it

Discovery looks at histories of definitions, in which a definition is mentioned once whatever the
number of its rows. Still every row counts: `exists_entry_of_row` finds the entry of a row, and
`unreadable_of_skipped` says that the own definition of a row whose name was skipped has no layout.
-/

namespace WorldQuery

open Success

def Table.Stored (t : Table) : Prop := ∀ row ∈ t.rows, ∀ d ∈ row.data, d.IsStored

theorem Table.Stored.cell {t : Table} (h : t.Stored) {row : StoredRow} (hrow : row ∈ t.rows)
    (i : Nat) : (Table.cell row i).IsStored := by
  unfold Table.cell
  rw [List.getD_eq_getElem?_getD]
  cases hget : row.data[i]? with
  | none => trivial
  | some d => exact h row hrow d (List.mem_of_getElem? hget)

namespace Component

/-- Every column of a row can be read. -/
def Valid (row : Row) : Prop :=
  (∀ entry ∈ textColumns, ∃ text, readText (Assoc.get? row entry.1) = .ok text) ∧
    ∃ moment, readStamp (Assoc.get? row stampColumn) = .ok moment

theorem valid_zip {id stamp : Datum} {m : Time.Moment}
    {text name address classHash transactionHash definition : String}
    (hid : readText (some id) = .ok text) (hstamp : readStamp (some stamp) = .ok m) :
    Valid (columns.zip [id, .text name, .text address, .text classHash, .text transactionHash,
      .text definition, stamp]) := by
  refine ⟨?_, m, hstamp⟩
  simp only [textColumns, List.forall_mem_cons]
  exact ⟨⟨text, hid⟩, ⟨_, rfl⟩, ⟨_, rfl⟩, ⟨_, rfl⟩, ⟨_, rfl⟩, ⟨_, rfl⟩, by simp⟩

def pairs (rows : List Row) : List (Datum × Datum) :=
  rows.map fun row => (columnDatum row 0, columnDatum row 1)

/-- All component rows of a store can be read as far as their names and definitions go. -/
def Textual (s : Store) : Prop :=
  ∃ rows, rowsInOrder s layoutColumns = .ok rows ∧ ∀ pair ∈ pairs rows,
    (∃ name, pair.1 = .text name) ∧ ∃ text, definitionText pair.2 = .ok text

theorem textual_of_declares {s : Store} {rows : List (String × String)} (h : Declares s rows) :
    Textual s := by
  obtain ⟨found, hfound, hrows⟩ := h
  refine ⟨found, hfound, fun pair hpair => ?_⟩
  rw [pairs, hrows] at hpair
  obtain ⟨⟨name, definition⟩, -, rfl⟩ := List.mem_map.mp hpair
  exact ⟨⟨name, rfl⟩, definition, rfl⟩

variable {s : Store} {t : Table} {row : StoredRow} {selected : List Nat}

theorem exists_cell_of_readText (hselected : positions t columns = .ok selected)
    {column text : String} (hcolumn : column ∈ columns)
    (h : readText (Assoc.get? (pick t selected row) column) = .ok text) :
    ∃ i, t.position column = .ok i ∧
      Assoc.get? (pick t selected row) column = some (Table.cell row i) ∧
        readText (some (Table.cell row i)) = .ok text := by
  cases hget : Assoc.get? (pick t selected row) column with
  | none => simp [hget, readText] at h
  | some d =>
    obtain ⟨i, hi, rfl⟩ := get?_pick hselected hcolumn columns_distinct hget
    exact ⟨i, hi, rfl, hget ▸ h⟩

theorem readText_same {d e : Datum} {text : String} (h : readText (some d) = .ok text)
    (he : e.IsStored) (hsame : (d == e) = true) : d = e := by
  rcases readText_eq_ok_iff.mp h with rfl | ⟨bytes, rfl, -⟩
  · exact (Datum.text_beq_iff.mp hsame).symm
  · exact ((Datum.blob_beq_iff he).mp hsame).symm

theorem readText_beq_self {d : Datum} {text : String} (h : readText (some d) = .ok text) :
    (d == d) = true := by
  rcases readText_eq_ok_iff.mp h with rfl | ⟨bytes, rfl, -⟩
  · exact Datum.text_beq_iff.mpr rfl
  · have hstored : (Datum.blob bytes).IsStored := trivial
    exact (Datum.blob_beq_iff hstored).mpr rfl

theorem exists_entry_of_row {entries : List (Datum × List Datum)}
    (hentries : definitions s = .ok entries) (ht : s.table tableName = .ok t) (hstored : t.Stored)
    (hrow : row ∈ t.rows) {nameAt definitionAt : Nat} (hnameAt : t.position "name" = .ok nameAt)
    (hdefinitionAt : t.position "storage_definition" = .ok definitionAt) {name definition : String}
    (hname : readText (some (Table.cell row nameAt)) = .ok name)
    (hdefinition : readText (some (Table.cell row definitionAt)) = .ok definition) :
    ∃ e ∈ entries, (e.1 == Table.cell row nameAt) = true ∧ Table.cell row definitionAt ∈ e.2 := by
  obtain ⟨rows, hrows, rfl⟩ := definitions_eq_ok_iff.mp hentries
  obtain ⟨t', selected, ht', hselected, hperm⟩ := rowsInOrder_perm hrows
  obtain rfl := Except.ok.inj (ht.symm.trans ht')
  obtain rfl : selected = [nameAt, definitionAt] := by
    have hpositions : positions t layoutColumns = .ok [nameAt, definitionAt] :=
      positions_layoutColumns_eq_ok_iff.mpr ⟨_, _, hnameAt, hdefinitionAt, rfl⟩
    exact Except.ok.inj (hselected.symm.trans hpositions)
  have hcells : ∀ pair ∈ rows.map fun row => (columnDatum row 0, columnDatum row 1),
      ∃ other ∈ t.rows, pair = (Table.cell other nameAt, Table.cell other definitionAt) := by
    intro pair hpair
    obtain ⟨r, hr, rfl⟩ := List.mem_map.mp hpair
    obtain ⟨other, hother, rfl⟩ := List.mem_map.mp (hperm.subset hr)
    exact ⟨other, hother, rfl⟩
  refine exists_mem_history (readText_beq_self hname) ?_ ?_
  · intro pair hpair hsame
    obtain ⟨other, hother, rfl⟩ := hcells pair hpair
    exact readText_same hdefinition (hstored.cell hother definitionAt) hsame
  · have hpick : pick t [nameAt, definitionAt] row ∈ rows :=
      hperm.symm.subset (List.mem_map_of_mem hrow)
    exact List.mem_map.mpr ⟨_, hpick, rfl⟩

end Component

namespace Discovery

variable {s : Store} {t : Table} {row : StoredRow} {known : List String}

/-! ### Rows and what is discovered -/

theorem ofStore_eq_ok_iff_rows {rows : List Row} {tablePrefix : String} {found : List ObjectDef}
    (hrows : Component.rowsInOrder s Component.layoutColumns = .ok rows) :
    ofStore s tablePrefix = .ok found ↔
      fault? (Component.history (Component.pairs rows)) = none ∧
        found = objects (textEntries (Component.history (Component.pairs rows))) tablePrefix := by
  rw [ofStore_eq_ok_iff]
  constructor
  · rintro ⟨entries, hentries, hfault, rfl⟩
    obtain ⟨rows', hrows', rfl⟩ := Component.definitions_eq_ok_iff.mp hentries
    obtain rfl := Except.ok.inj (hrows.symm.trans hrows')
    exact ⟨hfault, rfl⟩
  · rintro ⟨hfault, rfl⟩
    exact ⟨_, Component.definitions_eq_ok_iff.mpr ⟨rows, hrows, rfl⟩, hfault, rfl⟩

theorem textEntries_history_nodup (pairs : List (Datum × Datum)) :
    (Assoc.keys (textEntries (Component.history pairs))).Nodup :=
  keys_textEntries_nodup (Component.history_pairwise _)

theorem obstacle?_eq_none_of_texts {candidates : List Datum}
    (h : ∀ d ∈ candidates, ∃ text, Component.definitionText d = .ok text) (known : List String) :
    obstacle? known candidates = none := by
  induction candidates with
  | nil => rfl
  | cons d older ih =>
    obtain ⟨text, htext⟩ := h d List.mem_cons_self
    exact obstacle?_cons_eq_none_iff.mpr
      ⟨text, htext, Or.inr (ih fun e he => h e (List.mem_cons_of_mem _ he))⟩

theorem obstacle?_history_of_texts {pairs : List (Datum × Datum)}
    (h : ∀ pair ∈ pairs, ∃ text, Component.definitionText pair.2 = .ok text) (known : List String) :
    ∀ e ∈ Component.history pairs, obstacle? known e.2 = none := by
  intro e he
  apply obstacle?_eq_none_of_texts
  intro d hd
  obtain ⟨name, hpair, -⟩ := Component.exists_mem_of_mem_history he hd
  exact h _ hpair

theorem fault?_eq_none_of_texts {pairs : List (Datum × Datum)}
    (h : ∀ pair ∈ pairs, (∃ name, pair.1 = .text name) ∧
      ∃ text, Component.definitionText pair.2 = .ok text) :
    fault? (Component.history pairs) = none := by
  rw [fault?_eq_none_iff (textEntries_history_nodup pairs)]
  intro e he
  constructor
  · exact obstacle?_history_of_texts (fun pair hpair => (h pair hpair).2) _ e he
  · intro hname
    obtain ⟨pair, hpair, heq⟩ := Component.exists_of_mem_history he
    obtain ⟨name, htext⟩ := (h pair hpair).1
    exact absurd (heq.trans htext) (hname name)

theorem exists_ofStore_of_textual (h : Component.Textual s) (tablePrefix : String) :
    ∃ found, ofStore s tablePrefix = .ok found := by
  obtain ⟨rows, hrows, htexts⟩ := h
  exact ⟨_, (ofStore_eq_ok_iff_rows hrows).mpr ⟨fault?_eq_none_of_texts htexts, rfl⟩⟩

theorem ofStore_of_declares {rows : List (String × String)} (h : Component.Declares s rows)
    (tablePrefix : String) :
    ofStore s tablePrefix = .ok (objects (Component.history rows) tablePrefix) := by
  obtain ⟨found, hfound, htexts⟩ := Component.textual_of_declares h
  obtain ⟨found', hfound', hrows⟩ := h
  obtain rfl := Except.ok.inj (hfound.symm.trans hfound')
  have hentries : textEntries (Component.history (Component.pairs found)) =
      Component.history rows := by
    rw [Component.pairs, hrows, Component.history_map Datum.text_beq_text Datum.text_beq_text,
      textEntries_map_text]
  rw [← hentries]
  exact (ofStore_eq_ok_iff_rows hfound).mpr ⟨fault?_eq_none_of_texts htexts, rfl⟩

/-! ### Rows of skipped names -/

theorem Unreadable.read_eq_error {d : Datum} {definition : String} (h : Unreadable known d)
    (hdefinition : Component.readText (some d) = .ok definition) (owner : String) :
    ∃ fault, Layout.read known owner definition = .error fault := by
  have hnone : ∀ layout, Layout.readChars known definition.toList ≠ .ok layout := by
    obtain ⟨text, htext, hnone⟩ := h
    rcases Component.readText_eq_ok_iff.mp hdefinition with rfl | ⟨bytes, rfl, hdecoded⟩
    · obtain rfl := Except.ok.inj htext
      exact hnone
    · simp only [Component.definitionText] at htext
      split_ifs at htext with hblank
      have hall : definition.toList.all Text.isBlank = true :=
        List.all_eq_true.mpr (Text.isBlank_of_fromUTF8? hdecoded (List.all_eq_true.mp hblank))
      simp [Layout.readChars, hall]
  cases hread : Layout.read known owner definition with
  | error fault => exact ⟨fault, rfl⟩
  | ok layout => exact absurd (Layout.read_eq_ok_iff.mp hread) (hnone layout)

/-- Once a store is discovered, the definition of a row whose name was skipped has no layout. -/
theorem unreadable_of_skipped {tablePrefix : String} {found : List ObjectDef}
    (hfound : ofStore s tablePrefix = .ok found) (ht : s.table Component.tableName = .ok t)
    (hstored : t.Stored) (hrow : row ∈ t.rows) {nameAt definitionAt : Nat}
    (hnameAt : t.position "name" = .ok nameAt)
    (hdefinitionAt : t.position "storage_definition" = .ok definitionAt) {name definition : String}
    (hname : Component.readText (some (Table.cell row nameAt)) = .ok name)
    (hdefinition : Component.readText (some (Table.cell row definitionAt)) = .ok definition)
    (hskipped : name ∉ found.filterMap ObjectDef.declaredName?) :
    Unreadable (found.filterMap ObjectDef.declaredName?) (Table.cell row definitionAt) := by
  obtain ⟨entries, hentries, hfault, rfl⟩ := ofStore_eq_ok_iff.mp hfound
  rw [filterMap_declaredName?_objects] at hskipped ⊢
  obtain ⟨⟨d, candidates⟩, he, hsame, hmem⟩ := Component.exists_entry_of_row hentries ht hstored hrow
    hnameAt hdefinitionAt hname hdefinition
  refine unreadable_of_not_kept (keys_textEntries_nodup_of_definitions hentries) hfault he ?_ _ hmem
  rintro n hn rfl
  have htext : Table.cell row nameAt = .text n := Datum.text_beq_iff.mp hsame
  rw [htext] at hname
  obtain rfl := Except.ok.inj hname
  exact hskipped hn

end Discovery

end WorldQuery
