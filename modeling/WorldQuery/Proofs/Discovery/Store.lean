import WorldQuery.Proofs.Component.History
import WorldQuery.Proofs.Discovery.Fixpoint
import WorldQuery.Proofs.Success

/-!
# Discovery in a store

What is discovered in a store depends on the names and definitions of its component rows, taken in
the order of creation. `Component.Declares` gives these rows where they are texts. The layout of a
kept name is the definition of the last of its rows that can be read: `lastReadable_of_mem_kept`.
-/

namespace WorldQuery

/-- The component rows of a store in the order of creation, each by its name and definition. -/
def Component.Declares (s : Store) (rows : List (String × String)) : Prop :=
  ∃ found, Component.rowsInOrder s Component.layoutColumns = .ok found ∧
    found.map (fun row => (Component.columnDatum row 0, Component.columnDatum row 1)) =
      rows.map fun (name, definition) => (Datum.text name, Datum.text definition)

theorem Component.rowsInOrder_of_sorted {s : Store} {t : Table} {names : List String}
    {selected : List Nat} {stamp key : Nat} (ht : s.table tableName = .ok t)
    (hselected : positions t names = .ok selected) (hstamp : t.position stampColumn = .ok stamp)
    (hkey : t.position "id" = .ok key)
    (hsorted : t.rows.Pairwise fun a b =>
      (Store.compareData (Table.cell a stamp) (Table.cell b stamp)).then
        (Store.compareData (Table.cell a key) (Table.cell b key)) ≠ .gt) :
    rowsInOrder s names = .ok (t.rows.map (pick t selected)) := by
  unfold rowsInOrder
  simp only [Success.bind_eq_ok_iff]
  refine ⟨t, ht, selected, hselected, stamp, hstamp, key, hkey, ?_⟩
  rw [List.mergeSort_of_pairwise (hsorted.imp fun h => by simpa using h)]
  rfl

theorem Component.definitions_eq_ok_iff {s : Store} {entries : List (Datum × List Datum)} :
    definitions s = .ok entries ↔
      ∃ rows, rowsInOrder s layoutColumns = .ok rows ∧
        entries = history (rows.map fun row => (columnDatum row 0, columnDatum row 1)) := by
  unfold definitions
  rw [Success.bind_eq_ok_iff]
  refine exists_congr fun rows => and_congr Success.mapError_eq_ok_iff ?_
  exact Success.pure_eq_ok_iff.trans eq_comm

namespace Discovery

variable {s : Store} {rows : List (String × String)} {tablePrefix : String}

theorem asText_text (t : String) : asText (.text t) = t := rfl

theorem textEntries_map_text (histories : List (String × List String)) :
    textEntries (histories.map fun (name, ds) => (Datum.text name, ds.map Datum.text)) =
      histories := by
  unfold textEntries
  rw [List.filterMap_map]
  conv_rhs => rw [← List.map_id histories, ← List.filterMap_eq_map]
  congr 1
  funext ⟨name, ds⟩
  simp [Function.comp_def, asText_text]

theorem keys_textEntries_nodup {entries : List (Datum × List Datum)}
    (h : entries.Pairwise fun p q => (p.1 == q.1) = false) :
    (Assoc.keys (textEntries entries)).Nodup := by
  rw [Assoc.keys, List.Nodup, List.pairwise_map]
  unfold textEntries
  rw [List.pairwise_filterMap]
  refine h.imp ?_
  rintro ⟨d, ds⟩ ⟨e, es⟩ hne p hp q hq
  cases d with
  | text s =>
    cases e with
    | text t =>
      obtain rfl : (s, ds.map asText) = p := by simpa using hp
      obtain rfl : (t, es.map asText) = q := by simpa using hq
      simpa [Datum.text_beq_text] using hne
    | _ => simp at hq
  | _ => simp at hp

theorem keys_textEntries_nodup_of_definitions {entries : List (Datum × List Datum)}
    (h : Component.definitions s = .ok entries) : (Assoc.keys (textEntries entries)).Nodup := by
  obtain ⟨rows, -, rfl⟩ := Component.definitions_eq_ok_iff.mp h
  exact keys_textEntries_nodup (Component.history_pairwise _)

theorem ofStore_eq_ok_iff {found : List ObjectDef} :
    ofStore s tablePrefix = .ok found ↔
      ∃ entries, Component.definitions s = .ok entries ∧ fault? entries = none ∧
        found = objects (textEntries entries) tablePrefix := by
  unfold ofStore
  rw [Success.bind_eq_ok_iff]
  refine exists_congr fun entries => and_congr_right fun _ => ?_
  cases fault? entries with
  | some fault => simp [Success.throw_ne_ok]
  | none => exact Success.pure_eq_ok_iff.trans (by simp [eq_comm])

theorem ofStore_eq_objects {found : List ObjectDef} (h : ofStore s tablePrefix = .ok found) :
    ∃ definitions, (Assoc.keys definitions).Nodup ∧ found = objects definitions tablePrefix := by
  obtain ⟨entries, hentries, -, rfl⟩ := ofStore_eq_ok_iff.mp h
  exact ⟨_, keys_textEntries_nodup_of_definitions hentries, rfl⟩

theorem newest_eq_findSome? (known : List String) (candidates : List String) :
    newest known candidates =
      candidates.findSome? fun d => (Layout.readChars known d.toList).toOption := by
  induction candidates with
  | nil => rfl
  | cons d rest ih =>
    rw [newest, List.findSome?_cons, ih]
    cases Layout.readChars known d.toList <;> rfl

/-- The layout is read from the last of the rows of a name that can be read. -/
def LastReadable (known : List String) (rows : List (String × String)) (name : String)
    (layout : Layout) : Prop :=
  ∃ older definition newer, rows = older ++ (name, definition) :: newer ∧
    Layout.read known name definition = .ok layout ∧
    ∀ row ∈ newer, row.1 = name → ∀ l, Layout.read known name row.2 ≠ .ok l

theorem lastReadable_of_mem_kept {name : String} {layout : Layout}
    (h : (name, layout) ∈ kept (Component.history rows)) :
    LastReadable (Assoc.keys (kept (Component.history rows))) rows name layout := by
  have hnodup := Component.keys_history_nodup rows
  obtain ⟨candidates, hmem, hreads⟩ := readsNewest_of_mem_kept hnodup h
  rw [← newest_eq_some_iff, newest_eq_findSome?] at hreads
  generalize Assoc.keys (kept (Component.history rows)) = known at hreads ⊢
  have hfound := Component.findSome?_history
    (fun d => (Layout.readChars known d.toList).toOption) rows name
  rw [Assoc.get?_of_mem hnodup hmem, Option.getD_some, hreads] at hfound
  obtain ⟨newer, row, older, hsplit, hrow, hnewer⟩ := List.findSome?_eq_some_iff.mp hfound.symm
  split_ifs at hrow with hname
  subst hname
  refine ⟨older.reverse, row.2, newer.reverse, ?_, ?_, ?_⟩
  · simpa using congrArg List.reverse hsplit
  · rw [Layout.read_eq_ok_iff]
    cases hread : Layout.readChars known row.2.toList with
    | error cause => simp [hread, Except.toOption] at hrow
    | ok found => simpa [hread, Except.toOption] using hrow
  · intro later hlater hsame l hl
    have hnone := hnewer later (List.mem_reverse.mp hlater)
    rw [Layout.read_eq_ok_iff] at hl
    simp [hsame, hl, Except.toOption] at hnone

end Discovery

end WorldQuery
