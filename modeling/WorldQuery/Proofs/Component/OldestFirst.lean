import WorldQuery.Proofs.Component.Stamp
import WorldQuery.Proofs.Store.Order
import WorldQuery.Proofs.Time.StampOrder

/-!
# The oldest components first

The list of all components is in the order of their creation stamps as texts. It is in the order of
their creation exactly if no text sorts before one of an earlier instant: `list_oldestFirst`. Stamps
that are written alike sort so. Stamps of two zones need not, nor stamps with a fraction of a second
beside stamps without, if a letter marks their zone.
-/

namespace WorldQuery.Component

open Success Time
open Store (NotAfter)

variable {s : Store} {t : Table} {selected : List Nat} {stamp key : Nat} {row : StoredRow}
  {rows : List StoredRow} {x y : Int}

/-- The creation stamp of a row is a text that denotes an instant. -/
def CreatedAt (stamp : Nat) (row : StoredRow) (x : Int) : Prop :=
  ∃ text m, Table.cell row stamp = .text text ∧ Stamp.readText text.toList = some m ∧ m.At x

/-- No row precedes one that was created earlier. -/
def OldestFirst (stamp : Nat) (rows : List StoredRow) : Prop :=
  rows.Pairwise fun a b => ∀ x y, CreatedAt stamp a x → CreatedAt stamp b y → x ≤ y

/-- The stamp of the first row sorts before the one of the second. -/
def SortsBefore (stamp : Nat) (a b : StoredRow) : Prop :=
  Store.compareData (Table.cell a stamp) (Table.cell b stamp) = .lt

/-- If the stamp of the first row sorts before the one of the second, the first row was created no
later. -/
def SortsByTime (stamp : Nat) (a b : StoredRow) : Prop :=
  SortsBefore stamp a b → ∀ x y, CreatedAt stamp a x → CreatedAt stamp b y → x ≤ y

/-- The stamps of the rows are texts of one style. Their letters tell the order of their instants,
as they are equally long or their zone sorts first. -/
structure WrittenAlike (stamp : Nat) (rows : List StoredRow) (style : Style) : Prop where
  styled : ∀ row ∈ rows, ∃ text m, Table.cell row stamp = .text text ∧ Styled style text.toList m
  comparable : style.ZoneFirst ∨ ∃ length, ∀ row ∈ rows, ∀ text,
    Table.cell row stamp = .text text → text.toList.length = length

theorem CreatedAt.unique_of_cell {a b : StoredRow} (h : Table.cell a stamp = Table.cell b stamp)
    (hx : CreatedAt stamp a x) (hy : CreatedAt stamp b y) : x = y := by
  obtain ⟨text, m, hcell, hread, hx⟩ := hx
  obtain ⟨text', m', hcell', hread', hy⟩ := hy
  obtain rfl : text = text' := Datum.text.inj (hcell.symm.trans (h.trans hcell'))
  obtain rfl := Option.some.inj (hread.symm.trans hread')
  exact hx.unique hy

theorem exists_createdAt (hselected : positions t columns = .ok selected)
    (hstamp : t.position stampColumn = .ok stamp) (hvalid : Valid (pick t selected row))
    (htext : ∃ text, Table.cell row stamp = .text text) : ∃ x, CreatedAt stamp row x := by
  obtain ⟨text, hcell⟩ := htext
  obtain ⟨m, hread⟩ := hvalid.2
  cases hget : Assoc.get? (pick t selected row) stampColumn with
  | none => simp [hget, readStamp] at hread
  | some d =>
    have hcolumn : stampColumn ∈ columns := List.mem_append_right _ List.mem_cons_self
    obtain rfl := (cell_of_get? hselected hcolumn hstamp hget).symm.trans hcell
    rw [hget] at hread
    have hm := readStamp_text_iff.mp hread
    obtain ⟨x, hx⟩ := Stamp.exists_at_of_readText hm
    exact ⟨x, text, m, hcell, hm, hx⟩

/-! ### Sorted rows -/

theorem not_sortsBefore_of_noLater (hstored : t.Stored) {a b : StoredRow} (ha : a ∈ t.rows)
    (hb : b ∈ t.rows) (h : NoLater stamp key a b) : ¬SortsBefore stamp b a := by
  have hswap : Store.order (Table.cell b stamp) (Table.cell a stamp) =
      (Store.order (Table.cell a stamp) (Table.cell b stamp)).swap := Std.OrientedCmp.eq_swap
  unfold SortsBefore
  unfold NoLater at h
  rw [Store.compareData_eq_order (hstored.cell ha stamp) (hstored.cell hb stamp)] at h
  rw [Store.compareData_eq_order (hstored.cell hb stamp) (hstored.cell ha stamp), hswap]
  rcases h with hlt | ⟨heq, -⟩
  · rw [hlt]
    decide
  · rw [heq]
    decide

/-- Sorted rows stand in the order of their instants if and only if no stamp sorts before one of an
earlier instant. -/
theorem oldestFirst_iff (hstored : t.Stored) (hperm : rows.Perm t.rows)
    (hsorted : rows.Pairwise (NoLater stamp key))
    (htext : ∀ row ∈ t.rows, ∃ text, Table.cell row stamp = .text text) :
    OldestFirst stamp rows ↔ ∀ a ∈ t.rows, ∀ b ∈ t.rows, SortsByTime stamp a b := by
  constructor
  · intro h
    -- what holds of a row and a later one is made symmetric, so that it holds of any two rows
    have hboth : rows.Pairwise fun a b => SortsByTime stamp a b ∧ SortsByTime stamp b a := by
      refine (h.and hsorted).imp_of_mem fun {a b} ha hb hab => ⟨fun _ => hab.1, fun hbefore => ?_⟩
      exact absurd hbefore
        (not_sortsBefore_of_noLater hstored (hperm.subset ha) (hperm.subset hb) hab.2)
    have hself : ∀ a ∈ rows, SortsByTime stamp a a ∧ SortsByTime stamp a a := by
      intro a ha
      have hle : SortsByTime stamp a a := fun _ x y hx hy => (hx.unique_of_cell rfl hy).le
      exact ⟨hle, hle⟩
    have hsymm : Std.Symm fun a b => SortsByTime stamp a b ∧ SortsByTime stamp b a :=
      ⟨fun _ _ hab => hab.symm⟩
    have hall := List.Pairwise.forall_of_forall hself hboth
    intro a ha b hb
    exact (hall (hperm.symm.subset ha) (hperm.symm.subset hb)).1
  · intro h
    refine hsorted.imp_of_mem fun {a b} ha hb hab x y hx hy => ?_
    have ha' := hperm.subset ha
    have hb' := hperm.subset hb
    rcases hab with hlt | ⟨heq, -⟩
    · exact h a ha' b hb' hlt x y hx hy
    · obtain ⟨text, hcell⟩ := htext b hb'
      rw [hcell] at heq
      have hsame : Table.cell a stamp = Table.cell b stamp := by
        rw [Datum.beq_text_iff.mp (Datum.beq_iff.mpr heq), hcell]
      exact (hx.unique_of_cell hsame hy).le

theorem WrittenAlike.sortsByTime {style : Style} (h : WrittenAlike stamp rows style)
    {a b : StoredRow} (ha : a ∈ rows) (hb : b ∈ rows) : SortsByTime stamp a b := by
  intro hbefore x y hx hy
  have hstyled {row : StoredRow} (hrow : row ∈ rows) {z : Int} (hz : CreatedAt stamp row z) :
      ∃ text m, Table.cell row stamp = .text text ∧ Styled style text.toList m ∧ m.At z := by
    obtain ⟨text, m, hcell, hread, hz⟩ := hz
    obtain ⟨text', m', hcell', hm'⟩ := h.styled row hrow
    obtain rfl : text = text' := Datum.text.inj (hcell.symm.trans hcell')
    obtain rfl := Option.some.inj (hread.symm.trans hm'.readText_eq)
    exact ⟨text, m, hcell, hm', hz⟩
  obtain ⟨text, m, hcell, hm, hx⟩ := hstyled ha hx
  obtain ⟨text', m', hcell', hm', hy⟩ := hstyled hb hy
  have hle : NotAfter text.toList text'.toList := by
    unfold SortsBefore at hbefore
    rw [hcell, hcell', Store.compareData] at hbefore
    unfold NotAfter
    rw [hbefore]
    decide
  refine hm.le_of_notAfter hm' ?_ hle hx hy
  rcases h.comparable with hfirst | ⟨length, hlength⟩
  · exact Or.inr hfirst
  · exact Or.inl ((hlength a ha text hcell).trans (hlength b hb text' hcell').symm)

/-- All components are listed in the order of their creation stamps as texts. That is the order of
their creation if and only if the letters of any two stamps tell the order of their instants, and it
is if all stamps are written alike. -/
theorem list_oldestFirst (ht : s.table tableName = .ok t) (hstored : t.Stored)
    (hselected : positions t columns = .ok selected) (hstamp : t.position stampColumn = .ok stamp)
    (hkey : t.position "id" = .ok key) (hvalid : ∀ row ∈ t.rows, Valid (pick t selected row))
    (htext : ∀ row ∈ t.rows, ∃ text, Table.cell row stamp = .text text) :
    ∃ rows, rows.Perm t.rows ∧ rows.Pairwise (NoLater stamp key) ∧
      list s none = rows.mapM (fun row => ofRow (pick t selected row)) ∧
      (∀ row ∈ rows, ∃ x, CreatedAt stamp row x) ∧
      (OldestFirst stamp rows ↔ ∀ a ∈ t.rows, ∀ b ∈ t.rows, SortsByTime stamp a b) ∧
      ((∃ style, WrittenAlike stamp t.rows style) → OldestFirst stamp rows) := by
  obtain ⟨rows, hperm, hsorted, hrows⟩ := rowsInOrder_sorted ht hstored hselected hstamp hkey
  have hiff := oldestFirst_iff hstored hperm hsorted htext
  refine ⟨rows, hperm, hsorted, ?_, fun row hrow => ?_, hiff, ?_⟩
  · have hlist : list s none = (rows.map (pick t selected)).mapM ofRow := by
      unfold list
      rw [hrows]
      rfl
    rw [hlist, List.mapM_map]
    rfl
  · have hmem := hperm.subset hrow
    exact exists_createdAt hselected hstamp (hvalid row hmem) (htext row hmem)
  · rintro ⟨style, halike⟩
    exact hiff.mpr fun a ha b hb => halike.sortsByTime ha hb

def storedComponent (number : Nat) (id created : String) : StoredRow where
  number := number
  data := [.text id, .text "Position", .text "0x9", .text "0x8", .text "0x7", .text "x: Felt",
    .text created]

def componentPair (first second : String) : Table where
  name := tableName
  columns := columns
  rows := [storedComponent 1 "0x1" first, storedComponent 2 "0x2" second]

theorem valid_storedComponent {first second : String} {number : Nat} {id created : String}
    {m : Moment} (h : Stamp.readText created.toList = some m) :
    Valid (pick (componentPair first second) [0, 1, 2, 3, 4, 5, 6]
      (storedComponent number id created)) := by
  change Valid (columns.zip (storedComponent number id created).data)
  exact valid_zip rfl (readStamp_text_iff.mpr h)

theorem stored_componentPair (first second : String) : (componentPair first second).Stored := by
  simp [Table.Stored, componentPair, storedComponent, Datum.IsStored]

theorem table_componentPair (first second : String) :
    (⟨[componentPair first second], true⟩ : Store).table tableName =
      .ok (componentPair first second) :=
  Store.table_of_cons (Store.sameName_iff.mpr rfl)

def sixOClock (micro : Nat) : Moment := ⟨⟨2024, 1, 1⟩, ⟨6, 0, 0, micro⟩, some 0⟩

theorem wholeMinutes_utc : WholeMinutes (some 0) := by
  intro micros hmicros
  obtain rfl := Option.some.inj hmicros
  exact ⟨by decide, by decide, by decide⟩

theorem styled_sixOClock {micro : Nat} (hmicro : micro < 1000000) :
    Styled (.kept (some 0) wholeMinutes_utc) (sixOClock micro).plainText.toList
      (sixOClock micro) := by
  have hdate : (⟨2024, 1, 1⟩ : Date).Valid := by decide
  have hclock : (⟨6, 0, 0, micro⟩ : Clock).Valid :=
    ⟨Nat.le_add_right 6 17, Nat.zero_le 59, Nat.zero_le 59, hmicro⟩
  have hvalid : (sixOClock micro).Valid :=
    ⟨hdate, hclock, fun micros h => (wholeMinutes_utc micros h).2⟩
  exact styled_plainText hvalid wholeMinutes_utc

/-- Two components that were stored with their times in UTC, one with a fraction of a second, are
listed by their age. Two with stamps in different zones are not: the first of them was created at
six o'clock in UTC, and the second, at seven o'clock five hours to the east, four hours before. -/
theorem list_oldestFirst_zones :
    let alike := componentPair (sixOClock 500000).plainText (sixOClock 0).plainText
    let zones := componentPair "2024-01-01T06:00:00+00:00" "2024-01-01T07:00:00+05:00"
    (∃ rows, rows.Perm alike.rows ∧ OldestFirst 6 rows ∧
      list ⟨[alike], true⟩ none =
        rows.mapM fun row => ofRow (pick alike [0, 1, 2, 3, 4, 5, 6] row)) ∧
    ∃ rows, rows.Perm zones.rows ∧ ¬OldestFirst 6 rows ∧
      list ⟨[zones], true⟩ none =
        rows.mapM fun row => ofRow (pick zones [0, 1, 2, 3, 4, 5, 6] row) := by
  intro alike zones
  constructor
  · have hhalf : Styled _ (sixOClock 500000).plainText.toList _ := styled_sixOClock (by decide)
    have hwhole : Styled _ (sixOClock 0).plainText.toList _ := styled_sixOClock (by decide)
    have halike : WrittenAlike 6 alike.rows (.kept (some 0) wholeMinutes_utc) := by
      refine ⟨List.forall_mem_cons.mpr ⟨⟨_, _, rfl, hhalf⟩,
        List.forall_mem_singleton.mpr ⟨_, _, rfl, hwhole⟩⟩, Or.inl ?_⟩
      exact Style.zoneFirst_kept _ wholeMinutes_utc
    obtain ⟨rows, hperm, -, hlist, -, -, hsorted⟩ := list_oldestFirst (table_componentPair _ _)
      (stored_componentPair _ _) rfl rfl rfl
      (List.forall_mem_cons.mpr ⟨valid_storedComponent hhalf.readText_eq,
        List.forall_mem_singleton.mpr (valid_storedComponent hwhole.readText_eq)⟩)
      (List.forall_mem_cons.mpr ⟨⟨_, rfl⟩, List.forall_mem_singleton.mpr ⟨_, rfl⟩⟩)
    exact ⟨rows, hperm, hsorted ⟨_, halike⟩, hlist⟩
  · have hfirst : Stamp.readText "2024-01-01T06:00:00+00:00".toList =
        some ⟨⟨2024, 1, 1⟩, ⟨6, 0, 0, 0⟩, some 0⟩ := by decide +kernel
    have hsecond : Stamp.readText "2024-01-01T07:00:00+05:00".toList =
        some ⟨⟨2024, 1, 1⟩, ⟨7, 0, 0, 0⟩, some 18000000000⟩ := by decide +kernel
    obtain ⟨rows, hperm, -, hlist, -, hiff, -⟩ := list_oldestFirst (table_componentPair _ _)
      (stored_componentPair _ _) rfl rfl rfl
      (List.forall_mem_cons.mpr ⟨valid_storedComponent hfirst,
        List.forall_mem_singleton.mpr (valid_storedComponent hsecond)⟩)
      (List.forall_mem_cons.mpr ⟨⟨_, rfl⟩, List.forall_mem_singleton.mpr ⟨_, rfl⟩⟩)
    refine ⟨rows, hperm, fun hsorted => ?_, hlist⟩
    obtain ⟨n, -, hn⟩ := (Date.valid_iff.mp (by decide : (⟨2024, 1, 1⟩ : Date).Valid)).1.eq_after
    have hbefore : SortsBefore 6 (storedComponent 1 "0x1" "2024-01-01T06:00:00+00:00")
        (storedComponent 2 "0x2" "2024-01-01T07:00:00+05:00") := by
      unfold SortsBefore
      decide +kernel
    have hle := hiff.mp hsorted _ List.mem_cons_self _
      (List.mem_cons_of_mem _ List.mem_cons_self) hbefore _ _
      ⟨_, _, rfl, hfirst, n, hn, rfl⟩ ⟨_, _, rfl, hsecond, n, hn, rfl⟩
    simp only [Clock.micros, Option.getD_some] at hle
    omega

end WorldQuery.Component
