import WorldQuery.Proofs.Component.Rows

/-!
# Listing components and finding one

A store whose component rows can all be made records, and tell themselves apart by their ids,
answers a list of them in order and each of them by its id: `Catalog.list_eq` and
`Catalog.exists_byId`. A limit cuts the list off at its end.
-/

namespace WorldQuery.Component

open Success

/-- The ids and the records of all component rows, in their order. The ids are texts, and no two are
the same. -/
structure Catalog (s : Store) (ids : List String) (records : List Record) : Prop where
  listed : ∃ rows, rowsInOrder s columns = .ok rows ∧ rows.mapM ofRow = .ok records ∧
    rows.map (Assoc.get? · "id") = ids.map fun id => some (.text id)
  nodup : ids.Nodup

variable {s : Store} {ids : List String} {records : List Record}

/-- How many of some components a limit lets through. -/
def takenOf (limit : Option Int) (n : Nat) : Nat :=
  match limit with
  | none => n
  | some k => min (max k 0).toNat n

theorem takenOf_le (limit : Option Int) (n : Nat) : takenOf limit n ≤ n := by
  cases limit with
  | none => exact Nat.le_refl n
  | some k => exact Nat.min_le_right _ _

namespace Catalog

theorem length_eq (h : Catalog s ids records) : records.length = ids.length := by
  obtain ⟨rows, -, hrecords, hids⟩ := h.listed
  have hlength := congrArg List.length hids
  rw [List.length_map, List.length_map] at hlength
  rw [← (mapM_eq_ok_iff.mp hrecords).length_eq, hlength]

/-- The list with a limit is the first part of the list without. -/
theorem list_eq (h : Catalog s ids records) {limit : Option Int}
    (hlimit : ∀ k, limit = some k → k ≤ greatestLimit) :
    list s limit = .ok (records.take (takenOf limit records.length)) := by
  obtain ⟨rows, hrows, hrecords, -⟩ := h.listed
  have hall := mapM_eq_ok_iff.mp hrecords
  refine bind_eq_ok_iff.mpr ⟨rows, mapError_eq_ok_iff.mpr hrows, ?_⟩
  cases limit with
  | none => rw [takenOf, List.take_length]; exact hrecords
  | some k =>
    have hk : ¬greatestLimit < k := Int.not_lt.mpr (hlimit k rfl)
    have htaken : k.toNat = (max k 0).toNat := by omega
    dsimp only
    rw [if_neg hk, takenOf, mapM_eq_ok_iff, ← List.take_eq_take_min, htaken]
    exact List.forall₂_take _ hall

end Catalog

theorem rowById_of_nodup {rows : List Row} {i : Nat} {id : String}
    (hrows : rowsInOrder s columns = .ok rows)
    (hids : rows.map (Assoc.get? · "id") = ids.map fun id => some (.text id)) (hnodup : ids.Nodup)
    (hi : ids[i]? = some id) :
    ∃ row, rows[i]? = some row ∧ rowById s columns id = .ok (some row) := by
  obtain ⟨t, selected, ht, hselected, hperm⟩ := rowsInOrder_perm hrows
  obtain ⟨t', -, -, key, ht', -, -, hkey⟩ := exists_rowsInOrder_iff.mp ⟨rows, hrows⟩
  obtain rfl := Except.ok.inj (ht.symm.trans ht')
  have hget : (rows[i]?).map (Assoc.get? · "id") = some (some (.text id)) := by
    rw [← List.getElem?_map, hids, List.getElem?_map, hi, Option.map_some]
  obtain ⟨row, hrow, hid⟩ := Option.map_eq_some_iff.mp hget
  obtain ⟨stored, hstored, rfl⟩ := List.mem_map.mp (hperm.subset (List.mem_of_getElem? hrow))
  refine ⟨_, hrow, ?_⟩
  -- rows come sorted, so that no two ids are the same is carried back to the rows as they are stored
  have hdistinct : (t.rows.map fun stored => Assoc.get? (pick t selected stored) "id").Nodup := by
    have hmapped := (hperm.map (Assoc.get? · "id")).nodup_iff.mp (hids ▸ hnodup.map fun a b heq =>
      Datum.text.inj (Option.some.inj heq))
    rwa [List.map_map] at hmapped
  have hunique : ∀ other ∈ t.rows, Table.cell other key = .text id → other = stored := by
    intro other hother heq
    have hmem : Assoc.get? (pick t selected other) "id" ∈ rows.map (Assoc.get? · "id") :=
      List.mem_map_of_mem (hperm.symm.subset (List.mem_map_of_mem hother))
    rw [hids] at hmem
    obtain ⟨id', -, hid'⟩ := List.mem_map.mp hmem
    have hown := cell_of_get? hselected (by decide) hkey hid'.symm
    obtain rfl : id = id' := Datum.text.inj (heq.symm.trans hown)
    exact List.inj_on_of_nodup_map hdistinct hother hstored (hid'.symm.trans hid.symm)
  exact rowById_of_unique ht hselected hkey hstored (cell_of_get? hselected (by decide) hkey hid)
    hunique

theorem Catalog.exists_byId (h : Catalog s ids records) {i : Nat} {id : String}
    (hi : ids[i]? = some id) : ∃ c, records[i]? = some c ∧ byId s id = .ok (some c) := by
  obtain ⟨rows, hrows, hrecords, hids⟩ := h.listed
  obtain ⟨row, hrow, hfound⟩ := rowById_of_nodup hrows hids h.nodup hi
  have hall := mapM_eq_ok_iff.mp hrecords
  obtain ⟨hlt, rfl⟩ := List.getElem?_eq_some_iff.mp hrow
  have hlt' : i < records.length := hall.length_eq ▸ hlt
  have hc : ofRow rows[i] = .ok records[i] := hall.get hlt hlt'
  exact ⟨records[i], List.getElem?_eq_getElem hlt', bind_eq_ok_iff.mpr
    ⟨_, mapError_eq_ok_iff.mpr hfound, bind_eq_ok_iff.mpr ⟨_, hc, rfl⟩⟩⟩

end WorldQuery.Component
