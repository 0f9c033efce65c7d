import WorldQuery.Proofs.Store.Order

/-!
# A row added to the components

`Component.Adds` puts one more row somewhere in the table of components, as an insertion does at its
end. Read in order of creation the row stands among the others, which keep their order:
`exists_rowsInOrder_split`. Whether the rows can be read at all is a matter of the columns.
-/

namespace WorldQuery.Component

open Success

/-! ### Insertions -/

/-- The components of `s'` are those of `s` and one more row, wherever it stands, and their data
are such as a store can hold. -/
def Adds (s s' : Store) (row : StoredRow) : Prop :=
  ∃ t before after, s.table tableName = .ok t ∧ t.rows = before ++ after ∧
    s'.table tableName = .ok { t with rows := before ++ row :: after } ∧
      Table.Stored { t with rows := before ++ row :: after }

theorem table?_insert (s : Store) (name wanted : String) (rows : List (List Datum)) :
    (s.insert name rows).table? wanted = (s.table? wanted).map fun t =>
      if Store.sameName t.name name then t.insert rows else t := by
  unfold Store.insert Store.modify Store.table?
  rw [List.find?_map]
  congr 2
  funext u
  dsimp only [Function.comp]
  split_ifs <;> rfl

theorem table_insert {s : Store} {t : Table} (ht : s.table tableName = .ok t)
    (data : List Datum) : (s.insert tableName [data]).table tableName =
      .ok { t with rows := t.rows ++ [⟨t.nextNumber, t.fit data⟩] } := by
  have hname := Store.sameName_of_table ht
  obtain ⟨hreachable, hfound⟩ := Store.table_eq_ok_iff.mp ht
  refine Store.table_eq_ok_iff.mpr ⟨hreachable, ?_⟩
  rw [table?_insert, hfound, Option.map_some, if_pos hname]
  rfl

theorem isStored_kept {d : Datum} (h : d.IsStored) : (Store.kept d).IsStored := by
  cases d with
  | real x =>
    rw [Store.kept]
    split_ifs <;> trivial
  | null | int i | text s | blob bytes => trivial
  | bool _ | illFormed _ | moment _ | list _ | object _ => exact h.elim

theorem isStored_fit {t : Table} {data : List Datum} (h : ∀ d ∈ data, d.IsStored) :
    ∀ d ∈ t.fit data, d.IsStored := by
  intro d hd
  obtain ⟨⟨column, i⟩, -, rfl⟩ := List.mem_map.mp hd
  refine isStored_kept ?_
  rw [List.getD_eq_getElem?_getD]
  cases hget : data[i]? with
  | none => trivial
  | some d => exact h d (List.mem_of_getElem? hget)

theorem stored_insert {t : Table} (ht : t.Stored) {rows : List (List Datum)}
    (hrows : ∀ data ∈ rows, ∀ d ∈ data, d.IsStored) : (t.insert rows).Stored := by
  intro row hrow
  rcases List.mem_append.mp hrow with hrow | hrow
  · exact ht row hrow
  · obtain ⟨⟨data, i⟩, hmem, rfl⟩ := List.mem_map.mp hrow
    exact isStored_fit (hrows data (List.fst_mem_of_mem_zipIdx hmem))

theorem adds_insert {s : Store} {t : Table} (ht : s.table tableName = .ok t) (hstored : t.Stored)
    {data : List Datum} (hdata : ∀ d ∈ data, d.IsStored) :
    Adds s (s.insert tableName [data]) ⟨t.nextNumber, t.fit data⟩ := by
  have hdata' : ∀ others ∈ [data], ∀ d ∈ others, d.IsStored := by simpa using hdata
  exact ⟨t, t.rows, [], ht, (List.append_nil _).symm, table_insert ht data,
    stored_insert hstored hdata'⟩

/-! ### Rows in order -/

variable {s s' : Store} {row : StoredRow}

theorem exists_rowsInOrder_of_subset {names : List String} {t : Table} {more : List StoredRow}
    (ht : s.table tableName = .ok t) (hsub : t.rows ⊆ more)
    (ht' : s'.table tableName = .ok { t with rows := more }) {rows' : List Row}
    (hrows' : rowsInOrder s' names = .ok rows') :
    ∃ rows, rowsInOrder s names = .ok rows ∧ rows ⊆ rows' := by
  obtain ⟨t₁, selected, stamp, key, ht₁, hselected, hstamp, hkey⟩ :=
    exists_rowsInOrder_iff.mp ⟨rows', hrows'⟩
  obtain rfl := Except.ok.inj (ht'.symm.trans ht₁)
  obtain ⟨rows, hrows⟩ := exists_rowsInOrder_iff.mpr
    ⟨t, selected, stamp, key, ht, hselected, hstamp, hkey⟩
  obtain ⟨t₂, selected₂, ht₂, hselected₂, hperm⟩ := rowsInOrder_perm hrows
  obtain rfl := Except.ok.inj (ht.symm.trans ht₂)
  obtain ⟨t₃, selected₃, ht₃, hselected₃, hperm'⟩ := rowsInOrder_perm hrows'
  obtain rfl := Except.ok.inj (ht'.symm.trans ht₃)
  obtain rfl := Except.ok.inj (hselected₂.symm.trans hselected₃)
  refine ⟨rows, hrows, fun r hr => hperm'.symm.subset ?_⟩
  obtain ⟨stored, hstored, rfl⟩ := List.mem_map.mp (hperm.subset hr)
  exact List.mem_map_of_mem (hsub hstored)

/-- The new row stands among the others, which keep their order. -/
theorem exists_rowsInOrder_split {names : List String} {rows' : List Row}
    (h : Adds s s' row) (hrows' : rowsInOrder s' names = .ok rows') :
    ∃ t selected lower upper, s'.table tableName = .ok t ∧ positions t names = .ok selected ∧
      rowsInOrder s names = .ok (lower ++ upper) ∧
      rows' = lower ++ pick t selected row :: upper := by
  obtain ⟨t, before, after, ht, hsplit, ht', hstored'⟩ := h
  obtain ⟨t₁, selected, stamp, key, ht₁, hselected, hstamp, hkey⟩ :=
    exists_rowsInOrder_iff.mp ⟨rows', hrows'⟩
  obtain rfl := Except.ok.inj (ht'.symm.trans ht₁)
  have hstored : t.Stored := by
    intro stored hmem
    rw [hsplit] at hmem
    exact hstored' stored (((List.sublist_cons_self row after).append_left before).subset hmem)
  let le (a b : StoredRow) : Bool := (rowOrder stamp key a b).isLE
  obtain ⟨lower, upper, hmore, hless⟩ : ∃ lower upper,
      (before ++ row :: after).mergeSort le = lower ++ row :: upper ∧
        (before ++ after).mergeSort le = lower ++ upper :=
    exists_mergeSort_split isLE_rowOrder_trans isLE_rowOrder_total before after row
  have hrows := rowsInOrder_eq_mergeSort ht hstored hselected hstamp hkey
  rw [hsplit, hless, List.map_append] at hrows
  rw [rowsInOrder_eq_mergeSort ht' hstored' hselected hstamp hkey, hmore,
    List.map_append, List.map_cons] at hrows'
  exact ⟨_, selected, _, _, ht', hselected, hrows, (Except.ok.inj hrows').symm⟩

theorem subset_of_adds {names : List String} {rows' : List Row} (h : Adds s s' row)
    (hrows' : rowsInOrder s' names = .ok rows') :
    ∃ rows, rowsInOrder s names = .ok rows ∧ rows ⊆ rows' := by
  obtain ⟨t, selected, lower, upper, -, -, hrows, rfl⟩ := exists_rowsInOrder_split h hrows'
  exact ⟨_, hrows, ((List.sublist_cons_self _ upper).append_left lower).subset⟩

/-- Whether rows can be read depends on the columns alone. -/
theorem rowsInOrder_error_of_adds {names : List String} {fault : StoreFault}
    (h : Adds s s' row) (hrows : rowsInOrder s names = .error fault) :
    rowsInOrder s' names = .error fault := by
  obtain ⟨t, before, after, ht, -, ht', -⟩ := h
  unfold rowsInOrder at hrows ⊢
  simp only [bind_eq_error_iff, ht, ht', Except.ok.injEq, exists_eq_left', reduceCtorEq, false_or,
    pure, Except.pure, and_false, exists_false, or_false] at hrows ⊢
  exact hrows

theorem isStored_pairs_of_adds (h : Adds s s' row) {rows' : List Row}
    (hrows' : rowsInOrder s' layoutColumns = .ok rows') :
    ∀ pair ∈ pairs rows', pair.2.IsStored := by
  obtain ⟨t, before, after, -, -, ht', hstored⟩ := h
  obtain ⟨t₁, selected, ht₁, hselected, hall⟩ := rowsInOrder_eq_ok hrows'
  obtain rfl := Except.ok.inj (ht'.symm.trans ht₁)
  obtain ⟨nameAt, definitionAt, -, -, rfl⟩ := positions_layoutColumns_eq_ok_iff.mp hselected
  intro pair hpair
  obtain ⟨r, hr, rfl⟩ := List.mem_map.mp hpair
  obtain ⟨stored, hmem, rfl⟩ := hall r hr
  exact hstored.cell hmem definitionAt

end WorldQuery.Component
