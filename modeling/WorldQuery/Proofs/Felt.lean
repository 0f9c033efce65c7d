import WorldQuery.Felt
import WorldQuery.Proofs.Number.Digits
import WorldQuery.Proofs.Number.Numerals
import WorldQuery.Proofs.Success
import WorldQuery.Proofs.Text.Pieces

/-!
# Canonical field elements

`Felt.Canonical` says what a field element looks like on the wire without computing it. What
`Felt.render` writes is of this form, and it is read back as it is: `canonical_render`.
-/

namespace WorldQuery

open Number Text Success

namespace Number

/-! ### Hexadecimal numerals -/

theorem digitIn_digitChar : ∀ d < 16, digitIn 16 (digitChar d) = some d := by decide

theorem digitText_digitChars {ds : List Nat} (hne : ds ≠ []) (h : ∀ d ∈ ds, d < 16) :
    DigitText 16 (ds.map digitChar) ds := by
  induction ds with
  | nil => exact absurd rfl hne
  | cons d rest ih =>
    obtain ⟨hd, hrest⟩ := List.forall_mem_cons.mp h
    cases rest with
    | nil => exact .last (digitIn_digitChar d hd)
    | cons e rest => exact .digit (digitIn_digitChar d hd) (ih (by simp) hrest)

theorem readInteger_numeral (n : Nat) : readInteger 16 (numeral 16 n) = .ok n := by
  have hdigits : DigitText 16 (numeral 16 n) (digits 16 n) :=
    digitText_digitChars (digits_ne_nil 16 (by omega) n) fun d => lt_of_mem_digits (by omega)
  refine (readInteger_eq_ok_iff (Or.inr rfl)).mpr ⟨[], [], [], _, [], false, _, by simp, by simp,
    by simp, .none, .none, hdigits, by simp, ?_⟩
  rw [ofDigits_digits 16 (by omega)]
  rfl

end Number

namespace ScalarFault

variable {fault : ScalarFault}

theorem nature_showing {d : Datum} (h : fault.nature ≠ .overflow) :
    (showing d fault).nature ≠ .overflow := by
  unfold showing
  split_ifs
  · exact h
  · simp [nature]

theorem nature_of_numeral {x : Except NumeralFault Int} (h : x.mapError .numeral = .error fault) :
    fault.nature ≠ .overflow := by
  obtain ⟨numeral, -, rfl⟩ := mapError_eq_error_iff.mp h
  simp [nature]

end ScalarFault

namespace Felt

def IsHexDigit (c : Char) : Prop := '0' ≤ c ∧ c ≤ '9' ∨ 'a' ≤ c ∧ c ≤ 'f'

/-- `0x` and hexadecimal digits in small letters, of which the first is not zero, or `0x0`. -/
def Canonical (s : String) : Prop :=
  ∃ d ds, s.toList = '0' :: 'x' :: d :: ds ∧ (∀ c ∈ d :: ds, IsHexDigit c) ∧ (d = '0' → ds = [])

theorem isHexDigit_digitChar :
    ∀ d < 16, IsHexDigit (digitChar d) ∧ (digitChar d = '0' → d = 0) := by
  unfold IsHexDigit
  decide

theorem canonical_of_digits {d : Nat} {ds : List Nat} (h : ∀ e ∈ d :: ds, e < 16)
    (hzero : d = 0 → ds = []) :
    Canonical (String.ofList ('0' :: 'x' :: (d :: ds).map digitChar)) := by
  refine ⟨digitChar d, ds.map digitChar, String.toList_ofList, fun c hc => ?_, fun hd => ?_⟩
  · rw [← List.map_cons] at hc
    obtain ⟨e, he, rfl⟩ := List.mem_map.mp hc
    exact (isHexDigit_digitChar e (h e he)).1
  · rw [hzero ((isHexDigit_digitChar d (h d List.mem_cons_self)).2 hd), List.map_nil]

theorem render_canonical (n : Nat) : Canonical (render n) := by
  have hlt : ∀ d ∈ digits 16 n, d < 16 := fun d => lt_of_mem_digits (by omega)
  rw [render, numeral]
  by_cases hn : n = 0
  · rw [hn, digits_zero (by omega)]
    exact canonical_of_digits (by decide) fun _ => rfl
  · have htwo : 2 ≤ 16 := by decide
    obtain ⟨d, ds, hdigits, hne⟩ := digits_eq_cons htwo hn
    rw [hdigits] at hlt ⊢
    exact canonical_of_digits hlt fun hd => absurd hd hne

theorem isBlank_digitChar : ∀ d < 16, isBlank (digitChar d) = false := by decide

theorem readText_render (n : Nat) : readText (render n) = .ok n := by
  have hbody : trim (render n).toList = '0' :: 'x' :: numeral 16 n := by
    rw [render, String.toList_ofList]
    refine trim_of_forall_not fun c hc => ?_
    simp only [List.mem_cons, numeral, List.mem_map] at hc
    rcases hc with rfl | rfl | ⟨d, hd, rfl⟩
    · decide
    · decide
    · exact isBlank_digitChar d (lt_of_mem_digits (by omega) hd)
  unfold readText
  rw [hbody]
  simp [readInteger_numeral, Except.mapError]

theorem ofDatum_render (n : Nat) : ofDatum (.text (render n)) = .ok n := by
  unfold ofDatum
  simp [readText_render, bind, Except.bind]

theorem canonical_render (n : Nat) : canonical (.text (render n)) = .ok (render n) := by
  rw [canonical, ofDatum_render]
  rfl

theorem exists_of_canonical {d : Datum} {s : String} (h : canonical d = .ok s) :
    ∃ n, s = render n := by
  obtain ⟨n, -, rfl⟩ := map_eq_ok_iff.mp h
  exact ⟨n, rfl⟩

/-! ### Faults -/

variable {fault : ScalarFault}

theorem nature_of_readText {s : String} (h : readText s = .error fault) :
    fault.nature ≠ .overflow := by
  unfold readText at h
  dsimp only at h
  split at h
  · split_ifs at h
    · exact ScalarFault.nature_of_numeral h
    · exact ScalarFault.nature_of_numeral h
    · cases h
      simp [ScalarFault.nature]
  · split_ifs at h
    · exact ScalarFault.nature_of_numeral h
    · cases h
      simp [ScalarFault.nature]

theorem nature_strayFault (codes : List Nat) : (strayFault codes).nature = .content := by
  unfold strayFault
  dsimp only
  split
  · split_ifs <;> rfl
  · rfl

theorem nature_of_canonical {d : Datum} (h : canonical d = .error fault) :
    fault.nature ≠ .overflow := by
  rw [canonical, map_eq_error_iff] at h
  have hsign {i : Int} (h : (if i < 0 then .error (.showing d (.negativeElement d))
      else .ok i.toNat : Except ScalarFault Nat) = .error fault) : fault.nature ≠ .overflow := by
    split_ifs at h
    cases h
    exact ScalarFault.nature_showing (by simp [ScalarFault.nature])
  cases d with
  | int i => exact hsign h
  | text s =>
    rcases bind_eq_error_iff.mp h with h | ⟨i, -, h⟩
    · exact nature_of_readText h
    · exact hsign h
  | illFormed codes =>
    cases h
    rw [nature_strayFault]
    decide
  | null | bool | real | blob | moment | list | object =>
    cases h
    simp [ScalarFault.nature]

end Felt

end WorldQuery
