import WorldQuery.Proofs.Discovery.Rows
import Mathlib.Tactic

/-!
# The order of stored data

Among the data that a store can hold, `Store.compareData` is the order of their kinds, then of the
numbers by value, then of texts and bytes letter by letter: `compareData_eq_order`. To be the same
for the store is then an equivalence, and sorting puts the rows of a table in order:
`Component.rowsInOrder_sorted`. A row that is added does not change the order of the others:
`exists_mergeSort_split`.
-/

namespace WorldQuery

open Number Success

namespace Store

/-! ### Numbers by value -/

/-- The rational numbers between two infinities. -/
abbrev Extended : Type := WithBot (WithTop ℚ)

def realValue (x : Binary64) : Extended :=
  if x.isInfinite then (if x.signed then ⊥ else ⊤)
  else (((quotient x).1 / (quotient x).2 : ℚ) : WithTop ℚ)

def numberValue : Datum → Extended
  | .int i => ((i : ℚ) : WithTop ℚ)
  | .real x => realValue x
  | _ => ⊥

theorem compare_congr {α β : Type} [LinearOrder α] [LinearOrder β] {a b : α} {c d : β}
    (hlt : a < b ↔ c < d) (heq : a = b ↔ c = d) : compare a b = compare c d := by
  simp only [LinearOrder.compare_eq_compareOfLessAndEq, compareOfLessAndEq, hlt, heq]

theorem compare_finite (p q : ℚ) :
    compare ((p : WithTop ℚ) : Extended) ((q : WithTop ℚ) : Extended) = compare p q := by
  apply compare_congr <;> simp

theorem quotient_pos (x : Binary64) : 0 < (quotient x).2 := Nat.pow_pos (by decide)

theorem compareQuotients_eq {a c : Int} {b d : Nat} (hb : 0 < b) (hd : 0 < d) :
    compareQuotients a b c d = compare ((a : ℚ) / b) ((c : ℚ) / d) := by
  have hb' : (0 : ℚ) < b := Nat.cast_pos.mpr hb
  have hd' : (0 : ℚ) < d := Nat.cast_pos.mpr hd
  rw [compareQuotients]
  apply compare_congr
  · rw [div_lt_div_iff₀ hb' hd']
    exact_mod_cast Iff.rfl
  · rw [div_eq_div_iff hb'.ne' hd'.ne']
    exact_mod_cast Iff.rfl

theorem bot_lt_finite (p : ℚ) : (⊥ : Extended) < ((p : WithTop ℚ) : Extended) :=
  WithBot.bot_lt_coe _

theorem finite_lt_top (p : ℚ) : ((p : WithTop ℚ) : Extended) < ⊤ :=
  WithBot.coe_lt_coe.mpr (WithTop.coe_lt_top p)

theorem compareIntReal_eq (i : Int) (x : Binary64) :
    compareIntReal i x = compare (((i : ℚ) : WithTop ℚ) : Extended) (realValue x) := by
  unfold compareIntReal realValue
  split_ifs
  · exact (compare_gt_iff_gt.mpr (bot_lt_finite _)).symm
  · exact (compare_lt_iff_lt.mpr (finite_lt_top _)).symm
  · have hvalue := compareQuotients_eq (a := i) (c := (quotient x).1) Nat.one_pos (quotient_pos x)
    rw [Nat.cast_one, div_one] at hvalue
    rw [compare_finite, ← hvalue]

theorem compareReals_eq (x y : Binary64) :
    compareReals x y = compare (realValue x) (realValue y) := by
  have hends : (⊥ : Extended) < ⊤ := bot_lt_top
  unfold compareReals realValue
  cases x.isInfinite <;> cases y.isInfinite
  · simp [compare_finite, compareQuotients_eq, quotient_pos]
  · cases y.signed
    · exact (compare_lt_iff_lt.mpr (finite_lt_top _)).symm
    · exact (compare_gt_iff_gt.mpr (bot_lt_finite _)).symm
  · cases x.signed
    · exact (compare_gt_iff_gt.mpr (finite_lt_top _)).symm
    · exact (compare_lt_iff_lt.mpr (bot_lt_finite _)).symm
  · cases x.signed <;> cases y.signed
    · exact (compare_eq_iff_eq.mpr rfl).symm
    · exact (compare_gt_iff_gt.mpr hends).symm
    · exact (compare_lt_iff_lt.mpr hends).symm
    · exact (compare_eq_iff_eq.mpr rfl).symm

/-! ### All data -/

/-- The letters of a text, or the bytes. -/
def letters : Datum → List ℕ
  | .text s => s.toList.map Char.toNat
  | .blob bytes => bytes.map UInt8.toNat
  | _ => []

/-- The order by kind, value and letters. -/
def order : Datum → Datum → Ordering :=
  compareLex (compareOn kindRank) (compareLex (compareOn numberValue) (compareOn letters))

instance : Std.TransCmp order := inferInstanceAs (Std.TransCmp (compareLex _ _))

theorem order_eq (d e : Datum) : order d e = (compare (kindRank d) (kindRank e)).then
    ((compare (numberValue d) (numberValue e)).then (compare (letters d) (letters e))) := rfl

theorem compareLex_eq (xs ys : List ℕ) :
    Store.compareData.compareLex xs ys = compare xs ys := by
  induction xs generalizing ys with
  | nil => cases ys <;> rfl
  | cons x xs ih =>
    cases ys with
    | nil => rfl
    | cons y ys =>
      rw [Store.compareData.compareLex, ih, List.compare_cons_cons]

theorem compare_int (i j : Int) :
    compare i j = compare (numberValue (.int i)) (numberValue (.int j)) := by
  rw [numberValue, numberValue]
  rw [compare_finite]
  apply compare_congr
  · exact_mod_cast Iff.rfl
  · exact_mod_cast Iff.rfl

theorem compareData_of_kindRank_ne {d e : Datum} (h : kindRank d ≠ kindRank e) :
    compareData d e = order d e := by
  have hranks : compareData d e = compare (kindRank d) (kindRank e) := by
    cases d <;> cases e <;> first | rfl | exact absurd rfl h
  rw [order_eq, hranks]
  rcases Nat.lt_or_gt_of_ne h with hlt | hgt
  · rw [compare_lt_iff_lt.mpr hlt]
    rfl
  · rw [compare_gt_iff_gt.mpr hgt]
    rfl

theorem compareData_eq_order {d e : Datum} (hd : d.IsStored) (he : e.IsStored) :
    compareData d e = order d e := by
  by_cases hrank : kindRank d = kindRank e
  · rw [order_eq, compare_eq_iff_eq.mpr hrank, Ordering.eq_then]
    cases d with
    | bool | illFormed | moment | list | object => exact hd.elim
    | null =>
      cases e with
      | null => rfl
      | _ => exact absurd hrank (by simp [kindRank])
    | int i =>
      cases e with
      | int j => exact (compare_int i j).trans Ordering.then_eq.symm
      | real y => exact (compareIntReal_eq i y).trans Ordering.then_eq.symm
      | bool | illFormed | moment | list | object => exact he.elim
      | _ => exact absurd hrank (by simp [kindRank])
    | real x =>
      cases e with
      | int j =>
        refine Eq.trans ?_ Ordering.then_eq.symm
        exact (congrArg Ordering.swap (compareIntReal_eq j x)).trans Std.OrientedCmp.eq_swap.symm
      | real y => exact (compareReals_eq x y).trans Ordering.then_eq.symm
      | bool | illFormed | moment | list | object => exact he.elim
      | _ => exact absurd hrank (by simp [kindRank])
    | text s =>
      cases e with
      | text t => exact compareLex_eq _ _
      | _ => exact absurd hrank (by simp [kindRank])
    | blob bytes =>
      cases e with
      | blob others => exact compareLex_eq _ _
      | bool | illFormed | moment | list | object => exact he.elim
      | _ => exact absurd hrank (by simp [kindRank])
  · exact compareData_of_kindRank_ne hrank

end Store

namespace Datum

variable {d e : Datum}

theorem beq_iff_order (hd : d.IsStored) (he : e.IsStored) :
    (d == e) = true ↔ Store.order d e = .eq := by
  rw [beq_iff, Store.compareData_eq_order hd he]

end Datum

abbrev StoredDatum : Type := { d : Datum // d.IsStored }

namespace StoredDatum

instance : BEq StoredDatum := ⟨fun d e => d.val == e.val⟩

theorem beq_iff {d e : StoredDatum} : (d == e) = true ↔ Store.order d.val e.val = .eq :=
  Datum.beq_iff_order d.property e.property

/-- Being the same for the store is an equivalence. -/
instance : EquivBEq StoredDatum where
  rfl := beq_iff.mpr Std.ReflCmp.compare_self
  symm h := beq_iff.mpr (Std.OrientedCmp.eq_symm (beq_iff.mp h))
  trans h h' := beq_iff.mpr (Std.TransCmp.eq_trans (beq_iff.mp h) (beq_iff.mp h'))

end StoredDatum

theorem Datum.beq_symm {d e : Datum} (hd : d.IsStored) (he : e.IsStored) (h : (d == e) = true) :
    (e == d) = true :=
  (beq_iff_order he hd).mpr (Std.OrientedCmp.eq_symm ((beq_iff_order hd he).mp h))

/-! ### Rows in order -/

namespace Component

variable {s : Store} {t : Table} {names : List String} {selected : List Nat} {stamp key : Nat}

/-- A row has an earlier stamp than another, or the same stamp and no greater id. -/
def NoLater (stamp key : Nat) (a b : StoredRow) : Prop :=
  Store.compareData (Table.cell a stamp) (Table.cell b stamp) = .lt ∨
    Store.compareData (Table.cell a stamp) (Table.cell b stamp) = .eq ∧
      Store.compareData (Table.cell a key) (Table.cell b key) ≠ .gt

def rowOrder (stamp key : Nat) : StoredRow → StoredRow → Ordering :=
  compareLex (fun a b => Store.order (Table.cell a stamp) (Table.cell b stamp))
    fun a b => Store.order (Table.cell a key) (Table.cell b key)

instance (i : Nat) :
    Std.TransCmp fun a b : StoredRow => Store.order (Table.cell a i) (Table.cell b i) where
  eq_swap := Std.OrientedCmp.eq_swap
  isLE_trans := Std.TransCmp.isLE_trans

instance : Std.TransCmp (rowOrder stamp key) := inferInstanceAs (Std.TransCmp (compareLex _ _))

theorem rowOrder_eq (hstored : t.Stored) {a b : StoredRow} (ha : a ∈ t.rows) (hb : b ∈ t.rows) :
    rowOrder stamp key a b =
      (Store.compareData (Table.cell a stamp) (Table.cell b stamp)).then
        (Store.compareData (Table.cell a key) (Table.cell b key)) := by
  rw [Store.compareData_eq_order (hstored.cell ha stamp) (hstored.cell hb stamp),
    Store.compareData_eq_order (hstored.cell ha key) (hstored.cell hb key)]
  rfl

theorem noLater_iff (hstored : t.Stored) {a b : StoredRow} (ha : a ∈ t.rows) (hb : b ∈ t.rows) :
    NoLater stamp key a b ↔ (rowOrder stamp key a b).isLE = true := by
  rw [rowOrder_eq hstored ha hb, NoLater]
  cases Store.compareData (Table.cell a stamp) (Table.cell b stamp) <;>
    simp [Ordering.isLE_iff_ne_gt]

theorem mergeSort_congr {rows : List StoredRow} {le le' : StoredRow → StoredRow → Bool}
    (h : ∀ a ∈ rows, ∀ b ∈ rows, le a b = le' a b) : rows.mergeSort le = rows.mergeSort le' := by
  have hmap := List.map_mergeSort (r := le) (s := le') (f := id) h
  rwa [List.map_id, List.map_id] at hmap

theorem isLE_rowOrder_trans (a b c : StoredRow) (hab : (rowOrder stamp key a b).isLE = true)
    (hbc : (rowOrder stamp key b c).isLE = true) : (rowOrder stamp key a c).isLE = true :=
  Std.TransCmp.isLE_trans hab hbc

theorem isLE_rowOrder_total (a b : StoredRow) :
    ((rowOrder stamp key a b).isLE || (rowOrder stamp key b a).isLE) = true := by
  have hswap : rowOrder stamp key b a = (rowOrder stamp key a b).swap :=
    Std.OrientedCmp.eq_swap
  rw [hswap]
  cases rowOrder stamp key a b <;> rfl

theorem rowsInOrder_eq_mergeSort (ht : s.table tableName = .ok t) (hstored : t.Stored)
    (hselected : positions t names = .ok selected) (hstamp : t.position stampColumn = .ok stamp)
    (hkey : t.position "id" = .ok key) :
    rowsInOrder s names =
      .ok ((t.rows.mergeSort fun a b => (rowOrder stamp key a b).isLE).map (pick t selected)) := by
  have hcompare : ∀ a ∈ t.rows, ∀ b ∈ t.rows,
      ((Store.compareData (Table.cell a stamp) (Table.cell b stamp)).then
        (Store.compareData (Table.cell a key) (Table.cell b key)) != .gt) =
      (rowOrder stamp key a b).isLE := by
    intro a ha b hb
    rw [rowOrder_eq hstored ha hb]
    cases Store.compareData (Table.cell a stamp) (Table.cell b stamp) <;>
      cases Store.compareData (Table.cell a key) (Table.cell b key) <;> rfl
  unfold rowsInOrder
  simp only [bind_eq_ok_iff, pure_eq_ok_iff]
  exact ⟨t, ht, selected, hselected, stamp, hstamp, key, hkey,
    congrArg _ (mergeSort_congr hcompare)⟩

theorem rowsInOrder_sorted (ht : s.table tableName = .ok t) (hstored : t.Stored)
    (hselected : positions t names = .ok selected) (hstamp : t.position stampColumn = .ok stamp)
    (hkey : t.position "id" = .ok key) :
    ∃ sorted : List StoredRow, sorted.Perm t.rows ∧ sorted.Pairwise (NoLater stamp key) ∧
      rowsInOrder s names = .ok (sorted.map (pick t selected)) := by
  refine ⟨t.rows.mergeSort fun a b => (rowOrder stamp key a b).isLE, List.mergeSort_perm _ _, ?_,
    rowsInOrder_eq_mergeSort ht hstored hselected hstamp hkey⟩
  have hpairwise : (t.rows.mergeSort fun a b => (rowOrder stamp key a b).isLE).Pairwise
      fun a b => (rowOrder stamp key a b).isLE = true :=
    List.pairwise_mergeSort isLE_rowOrder_trans isLE_rowOrder_total _
  refine hpairwise.imp_of_mem fun ha hb h => ?_
  rw [List.mem_mergeSort] at ha hb
  exact (noLater_iff hstored ha hb).mpr h

/-! ### One more row -/

section Sorting

variable {α : Type} {le : α → α → Bool}
  (htrans : ∀ a b c, le a b = true → le b c = true → le a c = true)
  (htotal : ∀ a b, (le a b || le b a) = true)

include htrans htotal

/-- The first of some rows is sorted in behind those that it may not precede. -/
theorem mergeSort_cons_eq (a : α) (rows : List α) :
    (a :: rows).mergeSort le =
      (rows.mergeSort le).filter (!le a ·) ++ a :: (rows.mergeSort le).filter (le a ·) := by
  obtain ⟨lower, upper, hsorted, hrest, hlower⟩ := List.mergeSort_cons htrans htotal a rows
  have hupper : ∀ b ∈ upper, le a b = true := by
    have hpairwise := List.pairwise_mergeSort htrans htotal (a :: rows)
    rw [hsorted, List.pairwise_append] at hpairwise
    exact fun b hb => List.rel_of_pairwise_cons hpairwise.2.1 hb
  have hnone : lower.filter (le a ·) = [] := by
    refine List.filter_eq_nil_iff.mpr fun b hb => ?_
    simpa using hlower b hb
  have hnone' : upper.filter (!le a ·) = [] := by
    refine List.filter_eq_nil_iff.mpr fun b hb => ?_
    simp [hupper b hb]
  rw [hsorted, hrest, List.filter_append, List.filter_append, hnone, hnone', List.append_nil,
    List.nil_append, List.filter_eq_self.mpr hlower, List.filter_eq_self.mpr hupper]

/-- One more row, wherever it stands, is sorted in among the others and moves none of them. -/
theorem exists_mergeSort_split (before after : List α) (row : α) :
    ∃ lower upper, (before ++ row :: after).mergeSort le = lower ++ row :: upper ∧
      (before ++ after).mergeSort le = lower ++ upper := by
  induction before with
  | nil =>
    obtain ⟨lower, upper, hsorted, hrest, -⟩ := List.mergeSort_cons htrans htotal row after
    exact ⟨lower, upper, hsorted, hrest⟩
  | cons a before ih =>
    obtain ⟨lower, upper, hsorted, hrest⟩ := ih
    rw [List.cons_append, List.cons_append, mergeSort_cons_eq htrans htotal,
      mergeSort_cons_eq htrans htotal, hsorted, hrest]
    simp only [List.filter_append, List.filter_cons]
    by_cases hrow : le a row = true
    · refine ⟨lower.filter (!le a ·) ++ upper.filter (!le a ·) ++ a :: lower.filter (le a ·),
        upper.filter (le a ·), ?_, ?_⟩ <;> simp [hrow]
    · refine ⟨lower.filter (!le a ·),
        upper.filter (!le a ·) ++ a :: (lower.filter (le a ·) ++ upper.filter (le a ·)), ?_, ?_⟩ <;>
        simp [hrow]

end Sorting

end Component

end WorldQuery
