import WorldQuery.Proofs.Number.Digits
import WorldQuery.Store

/-!
# Numerals letter by letter

The store compares texts letter by letter. Numerals of one width stand in the order of what they
write, `NotAfter.numerals`, and so do fractions of any number of digits before something that sorts
before digits, `NotAfter.fractions`.
-/

namespace WorldQuery.Store

open Number

/-- The store does not put the first text after the second. -/
def NotAfter (a b : List Char) : Prop :=
  compareData.compareLex (a.map Char.toNat) (b.map Char.toNat) ≠ .gt

variable {a b : List Char} {c d : Char} {width width' value value' : Nat} {text text' : List Char}

theorem not_notAfter_nil : ¬NotAfter (c :: a) [] := by
  simp [NotAfter, compareData.compareLex]

theorem notAfter_cons_iff :
    NotAfter (c :: a) (d :: b) ↔ c.toNat < d.toNat ∨ c.toNat = d.toNat ∧ NotAfter a b := by
  unfold NotAfter
  rw [List.map_cons, List.map_cons, compareData.compareLex]
  rcases Nat.lt_trichotomy c.toNat d.toNat with hlt | heq | hgt
  · simp [Nat.compare_eq_lt.mpr hlt, hlt]
  · simp [heq]
  · simp [Nat.compare_eq_gt.mpr hgt, hgt.not_gt, hgt.ne']

theorem NotAfter.tail (h : NotAfter (c :: a) (c :: b)) : NotAfter a b :=
  (notAfter_cons_iff.mp h).elim (fun hlt => absurd hlt (lt_irrefl _)) And.right

theorem toNat_digitChar : ∀ d < 10, (digitChar d).toNat = 48 + d := by decide

theorem leading_lt {d e n m bound : Nat} (hlead : d < e) (hn : n < bound) :
    d * bound + n < e * bound + m := by
  have hstep : (d + 1) * bound ≤ e * bound := Nat.mul_le_mul_right bound hlead
  rw [Nat.succ_mul] at hstep
  omega

/-- Two numerals in front are in order, or they are the same and the order is told behind them. -/
theorem notAfter_numerals {ds es : List Nat} (hlength : ds.length = es.length)
    (hds : ∀ d ∈ ds, d < 10) (hes : ∀ e ∈ es, e < 10)
    (h : NotAfter (ds.map digitChar ++ a) (es.map digitChar ++ b)) :
    ofDigits 10 ds < ofDigits 10 es ∨ ofDigits 10 ds = ofDigits 10 es ∧ NotAfter a b := by
  induction ds generalizing es with
  | nil =>
    obtain rfl := List.length_eq_zero_iff.mp hlength.symm
    exact Or.inr ⟨rfl, h⟩
  | cons d ds ih =>
    cases es with
    | nil => simp at hlength
    | cons e es =>
      obtain ⟨hd, hds'⟩ := List.forall_mem_cons.mp hds
      obtain ⟨he, hes'⟩ := List.forall_mem_cons.mp hes
      have hlength' : ds.length = es.length := by simpa using hlength
      rw [List.map_cons, List.map_cons, List.cons_append, List.cons_append, notAfter_cons_iff,
        toNat_digitChar d hd, toNat_digitChar e he] at h
      rw [ofDigits_cons, ofDigits_cons, ← hlength']
      rcases h with hless | ⟨heq, hrest⟩
      · exact Or.inl (leading_lt (by omega) (ofDigits_lt hds'))
      · obtain rfl : e = d := by omega
        rcases ih hlength' hds' hes' hrest with hless | ⟨heq, hrest⟩
        · exact Or.inl (Nat.add_lt_add_left hless _)
        · exact Or.inr ⟨by rw [heq], hrest⟩

theorem NotAfter.numerals (h : NotAfter (text ++ a) (text' ++ b)) (hv : Writes width text value)
    (hv' : Writes width text' value') : value < value' ∨ value = value' ∧ NotAfter a b := by
  obtain ⟨ds, rfl, hds, rfl, rfl⟩ := hv
  obtain ⟨es, hlength, hes, rfl, rfl⟩ := hv'
  exact notAfter_numerals hlength.symm hds hes h

/-- Fractions of any number of digits are in order if what follows them sorts before digits. -/
theorem notAfter_fractions {z : List Char} {ds es : List Nat}
    (hz : ∀ ch ∈ z.head?, ch.toNat < 48) (hds : ∀ d ∈ ds, d < 10) (hes : ∀ e ∈ es, e < 10)
    (h : NotAfter (ds.map digitChar ++ z) (es.map digitChar ++ z)) :
    ofDigits 10 ds * 10 ^ es.length ≤ ofDigits 10 es * 10 ^ ds.length := by
  induction ds generalizing es with
  | nil => simp [ofDigits]
  | cons d ds ih =>
    obtain ⟨hd, hds'⟩ := List.forall_mem_cons.mp hds
    rw [List.map_cons, List.cons_append] at h
    cases es with
    | nil =>
      cases z with
      | nil => exact absurd h not_notAfter_nil
      | cons ch z =>
        have hch := hz ch rfl
        rw [List.map_nil, List.nil_append, notAfter_cons_iff, toNat_digitChar d hd] at h
        omega
    | cons e es =>
      obtain ⟨he, hes'⟩ := List.forall_mem_cons.mp hes
      rw [List.map_cons, List.cons_append, notAfter_cons_iff, toNat_digitChar d hd,
        toNat_digitChar e he] at h
      rw [ofDigits_cons, ofDigits_cons, List.length_cons, List.length_cons, pow_succ, pow_succ]
      rcases h with hless | ⟨heq, hrest⟩
      · have hlead : d * 10 ^ ds.length + ofDigits 10 ds ≤ e * 10 ^ ds.length := by
          have hlt := leading_lt (m := 0) (show d < e by omega) (ofDigits_lt hds')
          omega
        calc (d * 10 ^ ds.length + ofDigits 10 ds) * (10 ^ es.length * 10)
            ≤ e * 10 ^ ds.length * (10 ^ es.length * 10) := Nat.mul_le_mul_right _ hlead
          _ = e * 10 ^ es.length * (10 ^ ds.length * 10) := by ring
          _ ≤ (e * 10 ^ es.length + ofDigits 10 es) * (10 ^ ds.length * 10) :=
            Nat.mul_le_mul_right _ (Nat.le_add_right _ _)
      · obtain rfl : e = d := by omega
        have hle := ih hds' hes' hrest
        nlinarith

theorem NotAfter.fractions {z : List Char} (h : NotAfter (text ++ z) (text' ++ z))
    (hv : Writes width text value) (hv' : Writes width' text' value')
    (hz : width = width' ∨ ∀ ch ∈ z.head?, ch.toNat < 48) :
    value * 10 ^ width' ≤ value' * 10 ^ width := by
  rcases hz with rfl | hz
  · refine Nat.mul_le_mul_right _ ?_
    rcases h.numerals hv hv' with hlt | ⟨heq, -⟩
    · exact hlt.le
    · exact heq.le
  · obtain ⟨ds, rfl, hds, rfl, rfl⟩ := hv
    obtain ⟨es, rfl, hes, rfl, rfl⟩ := hv'
    exact notAfter_fractions hz hds hes h

theorem cut_le_cut (h : value * 10 ^ width' ≤ value' * 10 ^ width) :
    value * 10 ^ 6 / 10 ^ width ≤ value' * 10 ^ 6 / 10 ^ width' := by
  have hpos (n : Nat) : 0 < 10 ^ n := Nat.pow_pos (by decide)
  rw [Nat.le_div_iff_mul_le (hpos width'), Nat.mul_comm]
  calc 10 ^ width' * (value * 10 ^ 6 / 10 ^ width)
      ≤ 10 ^ width' * (value * 10 ^ 6) / 10 ^ width := Nat.mul_div_le_mul_div_assoc _ _ _
    _ = value * 10 ^ width' * 10 ^ 6 / 10 ^ width := by congr 1; ring
    _ ≤ value' * 10 ^ width * 10 ^ 6 / 10 ^ width :=
      Nat.div_le_div_right (Nat.mul_le_mul_right _ h)
    _ = value' * 10 ^ 6 := by
      rw [Nat.mul_right_comm, Nat.mul_div_cancel _ (hpos width)]

end WorldQuery.Store
