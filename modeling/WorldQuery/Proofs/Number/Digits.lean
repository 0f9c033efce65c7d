import WorldQuery.Number.Numeral
import WorldQuery.Time.Iso
import Mathlib.Data.Nat.Digits.Lemmas
import Mathlib.Tactic

/-!
# Digits and what they write

The digits of a number are below the base and write it, `ofDigits_digits`; there are as many as the
number needs, `length_digits_le_iff`. `Writes width text value` says that a text is a decimal
numeral of a fixed width. It is what is read by `Time.fixedDigits` and what `padded` writes.
-/

namespace WorldQuery.Number

open Text

/-! ### Digits -/

variable {base room n : Nat}

theorem lt_of_mem_digitsRev (hb : 0 < base) {d : Nat} (h : d ∈ digitsRev base room n) :
    d < base := by
  induction room generalizing n with
  | zero => simp [digitsRev] at h
  | succ room ih =>
    unfold digitsRev at h
    split_ifs at h with hn
    · obtain rfl := List.mem_singleton.mp h
      exact hn
    · rcases List.mem_cons.mp h with rfl | h
      · exact Nat.mod_lt _ hb
      · exact ih h

theorem getLast?_digitsRev (hb : 2 ≤ base) (hn : n ≠ 0) (hroom : n < 2 ^ room) :
    ∃ d, (digitsRev base room n).getLast? = some d ∧ d ≠ 0 := by
  induction room generalizing n with
  | zero => omega
  | succ room ih =>
    unfold digitsRev
    split_ifs with hlt
    · exact ⟨n, rfl, hn⟩
    · have hhalf : n / base ≤ n / 2 := Nat.div_le_div_left hb (by omega)
      have hpos : 0 < n / base := Nat.div_pos (by omega) (by omega)
      obtain ⟨d, hd, hne⟩ := ih (n := n / base) (by omega) (by omega)
      exact ⟨d, by rw [List.getLast?_cons, hd]; rfl, hne⟩

theorem lt_of_mem_digits (hb : 0 < base) {d : Nat} (h : d ∈ digits base n) : d < base :=
  lt_of_mem_digitsRev hb (List.mem_reverse.mp h)

theorem digits_eq_cons (hb : 2 ≤ base) (hn : n ≠ 0) :
    ∃ d rest, digits base n = d :: rest ∧ d ≠ 0 := by
  obtain ⟨d, hd, hne⟩ := getLast?_digitsRev hb hn (Nat.lt_log2_self (n := n))
  rw [← List.head?_reverse] at hd
  obtain ⟨rest, hrest⟩ := List.head?_eq_some_iff.mp hd
  exact ⟨d, rest, hrest, hne⟩

theorem digits_zero (hb : 0 < base) : digits base 0 = [0] := by
  simp [digits, digitsRev, hb]

theorem digits_ne_nil (base : Nat) (hb : 2 ≤ base) (n : Nat) : digits base n ≠ [] := by
  by_cases hn : n = 0
  · rw [hn, digits_zero (by omega)]
    simp
  · obtain ⟨d, rest, h, -⟩ := digits_eq_cons hb hn
    simp [h]

theorem ofDigits_reverse (base : Nat) (ds : List Nat) :
    ofDigits base ds.reverse = valueRev base ds := by
  rw [ofDigits, List.foldl_reverse]
  induction ds with
  | nil => rfl
  | cons d rest ih => rw [List.foldr_cons, ih, valueRev, Nat.add_comm, Nat.mul_comm]

theorem ofDigits_digits (base : Nat) (hb : 2 ≤ base) (n : Nat) :
    ofDigits base (digits base n) = n := by
  rw [digits, ofDigits_reverse]
  exact valueRev_digitsRev hb Nat.lt_log2_self

theorem digitsRev_eq (hb : 2 ≤ base) (hn : n ≠ 0) (hroom : n < 2 ^ room) :
    digitsRev base room n = Nat.digits base n := by
  induction room generalizing n with
  | zero => omega
  | succ room ih =>
    unfold digitsRev
    split_ifs with hlt
    · rw [Nat.digits_of_lt base n hn hlt]
    · have hhalf : n / base ≤ n / 2 := Nat.div_le_div_left hb (by omega)
      have hpos : 0 < n / base := Nat.div_pos (by omega) (by omega)
      rw [ih (by omega) (by omega), ← Nat.digits_def' (by omega) (by omega)]

theorem digitChar_eq : ∀ d < 16, digitChar d = Nat.digitChar d := by decide

theorem map_digitsRev (hb : 2 ≤ base) (hbase : base ≤ 16) (hroom : room ≠ 0) (hn : n < 2 ^ room) :
    (digitsRev base room n).reverse.map digitChar = Nat.toDigits base n := by
  induction room generalizing n with
  | zero => exact absurd rfl hroom
  | succ room ih =>
    unfold digitsRev
    split_ifs with hlt
    · rw [Nat.toDigits_of_lt_base hlt, List.reverse_singleton, List.map_singleton,
        digitChar_eq n (by omega)]
    · have hhalf : n / base ≤ n / 2 := Nat.div_le_div_left hb (by omega)
      have hpos : 0 < n / base := Nat.div_pos (by omega) (by omega)
      have hrest : n / base < 2 ^ room := by omega
      have hne : room ≠ 0 := by
        rintro rfl
        omega
      have hlast : n % base < 16 := (Nat.mod_lt n (by omega)).trans_le hbase
      rw [Nat.toDigits_of_base_le hb (by omega), List.reverse_cons, List.map_append, ih hne hrest,
        List.map_singleton, digitChar_eq _ hlast]

theorem numeral_eq_toDigits (hb : 2 ≤ base) (hbase : base ≤ 16) (n : Nat) :
    numeral base n = Nat.toDigits base n :=
  map_digitsRev hb hbase (by omega) Nat.lt_log2_self

theorem length_digits_le_iff {width : Nat} (hb : 2 ≤ base) (hwidth : 1 ≤ width) :
    (digits base n).length ≤ width ↔ n < base ^ width := by
  by_cases hn : n = 0
  · rw [hn, digits_zero (by omega)]
    exact iff_of_true hwidth (Nat.pow_pos (by omega))
  · rw [digits, digitsRev_eq hb hn Nat.lt_log2_self, List.length_reverse]
    exact Nat.digits_length_le_iff hb n

theorem ofDigits_append (ds es : List Nat) :
    ofDigits base (ds ++ es) = ofDigits base ds * base ^ es.length + ofDigits base es := by
  induction es using List.reverseRecOn with
  | nil => simp [ofDigits]
  | append_singleton es e ih =>
    have hlast (fs : List Nat) : ofDigits base (fs ++ [e]) = ofDigits base fs * base + e := by
      simp [ofDigits]
    rw [← List.append_assoc, hlast, hlast, ih]
    simp only [List.length_append, List.length_singleton, pow_succ]
    ring

theorem ofDigits_cons (d : Nat) (ds : List Nat) :
    ofDigits base (d :: ds) = d * base ^ ds.length + ofDigits base ds := by
  have hone : ofDigits base [d] = d := by simp [ofDigits]
  rw [← List.singleton_append, ofDigits_append, hone]

theorem ofDigits_lt {ds : List Nat} (h : ∀ d ∈ ds, d < base) :
    ofDigits base ds < base ^ ds.length := by
  induction ds using List.reverseRecOn with
  | nil => simp [ofDigits]
  | append_singleton ds d ih =>
    have hd : d < base := h d (by simp)
    have hds : ofDigits base ds < base ^ ds.length :=
      ih fun e he => h e (List.mem_append_left _ he)
    rw [ofDigits_append, List.length_append, pow_add]
    have hone : ofDigits base [d] = d := by simp [ofDigits]
    simp only [List.length_singleton, pow_one, hone]
    nlinarith

/-! ### Numerals of a fixed width -/

/-- The text consists of so many decimal digits and writes the number. -/
def Writes (width : Nat) (text : List Char) (value : Nat) : Prop :=
  ∃ ds : List Nat, ds.length = width ∧ (∀ d ∈ ds, d < 10) ∧ text = ds.map digitChar ∧
    value = ofDigits 10 ds

variable {width value : Nat} {text : List Char}

theorem asciiDigit_digitChar : ∀ d < 10, asciiDigit (digitChar d) = some d := by decide

theorem digitChar_of_asciiDigit {c : Char} {d : Nat} (h : asciiDigit c = some d) :
    d < 10 ∧ c = digitChar d := by
  unfold asciiDigit at h
  split_ifs at h with hc
  obtain rfl := Option.some.inj h
  have hlo : 48 ≤ c.toNat := hc.1
  have hhi : c.toNat ≤ 57 := hc.2
  refine ⟨by omega, ?_⟩
  rw [digitChar, if_pos (by omega), Nat.add_sub_cancel' hlo, Char.ofNat_toNat]

theorem digitChar_inj : ∀ d < 10, ∀ e < 10, digitChar d = digitChar e → d = e := by decide

namespace Writes

theorem length_eq (h : Writes width text value) : text.length = width := by
  obtain ⟨ds, hlength, -, rfl, -⟩ := h
  rw [List.length_map, hlength]

theorem value_lt (h : Writes width text value) : value < 10 ^ width := by
  obtain ⟨ds, rfl, hds, -, rfl⟩ := h
  exact ofDigits_lt hds

theorem ne_nil (h : Writes width text value) (hwidth : 1 ≤ width) : text ≠ [] := by
  rintro rfl
  have hlength := h.length_eq
  rw [List.length_nil] at hlength
  omega

theorem exists_digit (h : Writes width text value) {c : Char} (hc : c ∈ text) :
    ∃ d < 10, c = digitChar d := by
  obtain ⟨ds, -, hds, rfl, -⟩ := h
  obtain ⟨d, hd, rfl⟩ := List.mem_map.mp hc
  exact ⟨d, hds d hd, rfl⟩

theorem forall_mem {P : Char → Prop} (h : Writes width text value)
    (hdigit : ∀ d < 10, P (digitChar d)) : ∀ c ∈ text, P c := by
  intro c hc
  obtain ⟨d, hd, rfl⟩ := h.exists_digit hc
  exact hdigit d hd

theorem append {width' value' : Nat} {text' : List Char} (h : Writes width text value)
    (h' : Writes width' text' value') :
    Writes (width + width') (text ++ text') (value * 10 ^ width' + value') := by
  obtain ⟨ds, rfl, hds, rfl, rfl⟩ := h
  obtain ⟨es, rfl, hes, rfl, rfl⟩ := h'
  refine ⟨ds ++ es, List.length_append, fun d hd => ?_, List.map_append.symm,
    (ofDigits_append ds es).symm⟩
  rcases List.mem_append.mp hd with hd | hd
  · exact hds d hd
  · exact hes d hd

theorem split {width' : Nat} (h : Writes (width + width') text value) :
    ∃ front back v v', text = front ++ back ∧ value = v * 10 ^ width' + v' ∧
      Writes width front v ∧ Writes width' back v' := by
  obtain ⟨ds, hlength, hds, rfl, rfl⟩ := h
  have hback : (ds.drop width).length = width' := by
    rw [List.length_drop]
    omega
  refine ⟨(ds.take width).map digitChar, (ds.drop width).map digitChar, _, _, ?_, ?_,
    ⟨ds.take width, ?_, fun d hd => hds d (List.mem_of_mem_take hd), rfl, rfl⟩,
    ⟨ds.drop width, hback, fun d hd => hds d (List.mem_of_mem_drop hd), rfl, rfl⟩⟩
  · rw [← List.map_append, List.take_append_drop]
  · rw [← hback, ← ofDigits_append, List.take_append_drop]
  · rw [List.length_take]
    omega

theorem isSome_digit (h : Writes width text value) {c : Char} (hc : c ∈ text) :
    (asciiDigit c).isSome = true := by
  obtain ⟨d, hd, rfl⟩ := h.exists_digit hc
  rw [asciiDigit_digitChar d hd]
  rfl

theorem exists_cons (h : Writes (width + 1) text value) :
    ∃ d rest, d < 10 ∧ text = digitChar d :: rest := by
  obtain ⟨c, rest, rfl⟩ := List.exists_cons_of_ne_nil
    (List.ne_nil_of_length_eq_add_one h.length_eq)
  obtain ⟨d, hd, rfl⟩ := h.exists_digit List.mem_cons_self
  exact ⟨d, rest, hd, rfl⟩

theorem unique {width' value' : Nat} (h : Writes width text value)
    (h' : Writes width' text value') : value = value' := by
  obtain ⟨ds, -, hds, rfl, rfl⟩ := h
  obtain ⟨es, -, hes, heq, rfl⟩ := h'
  congr 1
  induction ds generalizing es with
  | nil => simpa using heq
  | cons d ds ih =>
    cases es with
    | nil => simp at heq
    | cons e es =>
      rw [List.map_cons, List.map_cons, List.cons.injEq] at heq
      rw [digitChar_inj d (hds d List.mem_cons_self) e (hes e List.mem_cons_self) heq.1,
        ih (fun f hf => hds f (List.mem_cons_of_mem d hf)) es
          (fun f hf => hes f (List.mem_cons_of_mem e hf)) heq.2]

/-- Numerals of one width in front of two texts are told apart by them. -/
theorem append_inj {value' : Nat} {text' rest rest' : List Char} (h : Writes width text value)
    (h' : Writes width text' value') (heq : text ++ rest = text' ++ rest') :
    value = value' ∧ rest = rest' := by
  obtain ⟨rfl, rfl⟩ := List.append_inj heq (h.length_eq.trans h'.length_eq.symm)
  exact ⟨h.unique h', rfl⟩

end Writes

theorem writes_numeral (n : Nat) : Writes (digits 10 n).length (numeral 10 n) n :=
  ⟨digits 10 n, rfl, fun _ => lt_of_mem_digits (by omega), rfl,
    (ofDigits_digits 10 (by omega) n).symm⟩

theorem writes_padded {n : Nat} (hwidth : 1 ≤ width) (hn : n < 10 ^ width) :
    Writes width (padded width n) n := by
  have hlength : (digits 10 n).length ≤ width :=
    (length_digits_le_iff (by omega) hwidth).mpr hn
  refine ⟨List.replicate (width - (digits 10 n).length) 0 ++ digits 10 n, ?_,
    fun d hd => ?_, ?_, ?_⟩
  · rw [List.length_append, List.length_replicate]
    omega
  · rcases List.mem_append.mp hd with hd | hd
    · rw [List.eq_of_mem_replicate hd]
      omega
    · exact lt_of_mem_digits (by omega) hd
  · rw [List.map_append, List.map_replicate, padded, padLeft, numeral, List.length_map]
    rfl
  · have hzeros (k : Nat) : ofDigits 10 (List.replicate k 0) = 0 := by
      induction k with
      | zero => rfl
      | succ k ih => rw [List.replicate_succ', ofDigits_append, ih]; rfl
    rw [ofDigits_append, hzeros, ofDigits_digits 10 (by omega)]
    omega

theorem writes_of_forall_digit (h : ∀ c ∈ text, (asciiDigit c).isSome = true) :
    ∃ value, Writes text.length text value := by
  have hdigits : ∃ ds : List Nat, (∀ d ∈ ds, d < 10) ∧ text = ds.map digitChar := by
    induction text with
    | nil => exact ⟨[], by simp, rfl⟩
    | cons c text ih =>
      obtain ⟨hc, hrest⟩ := List.forall_mem_cons.mp h
      obtain ⟨d, hd⟩ := Option.isSome_iff_exists.mp hc
      obtain ⟨hlt, rfl⟩ := digitChar_of_asciiDigit hd
      obtain ⟨ds, hds, rfl⟩ := ih hrest
      exact ⟨d :: ds, List.forall_mem_cons.mpr ⟨hlt, hds⟩, rfl⟩
  obtain ⟨ds, hds, rfl⟩ := hdigits
  exact ⟨_, ds, by simp, hds, rfl, rfl⟩

/-! ### Reading digits -/

theorem moreDigits_eq_some_iff {start : Nat} {rest : List Char} :
    Time.moreDigits width start text = some (value, rest) ↔
      ∃ ds : List Nat, ds.length = width ∧ (∀ d ∈ ds, d < 10) ∧
        text = ds.map digitChar ++ rest ∧ value = ds.foldl (fun n d => n * 10 + d) start := by
  induction width generalizing start text with
  | zero =>
    constructor
    · intro h
      obtain ⟨rfl, rfl⟩ : start = value ∧ text = rest := by simpa [Time.moreDigits] using h
      exact ⟨[], rfl, by simp, rfl, rfl⟩
    · rintro ⟨ds, hds, -, rfl, rfl⟩
      obtain rfl := List.length_eq_zero_iff.mp hds
      rfl
  | succ width ih =>
    constructor
    · intro h
      cases text with
      | nil => simp [Time.moreDigits] at h
      | cons c text =>
        unfold Time.moreDigits at h
        cases hc : asciiDigit c with
        | none => simp [hc] at h
        | some d =>
          rw [hc] at h
          obtain ⟨ds, hlength, hds, rfl, rfl⟩ := ih.mp h
          obtain ⟨hd, rfl⟩ := digitChar_of_asciiDigit hc
          exact ⟨d :: ds, by simp [hlength], List.forall_mem_cons.mpr ⟨hd, hds⟩, rfl, rfl⟩
    · rintro ⟨ds, hlength, hds, rfl, rfl⟩
      cases ds with
      | nil => simp at hlength
      | cons d ds =>
        obtain ⟨hd, hds⟩ := List.forall_mem_cons.mp hds
        rw [List.map_cons, List.cons_append, Time.moreDigits, asciiDigit_digitChar d hd]
        exact ih.mpr ⟨ds, by simpa using hlength, hds, rfl, rfl⟩

/-- A number is read from its digits, and no digit that follows them is looked at. -/
theorem fixedDigits_eq_some_iff {rest : List Char} :
    Time.fixedDigits width text = some (value, rest) ↔
      ∃ front, text = front ++ rest ∧ Writes width front value := by
  rw [Time.fixedDigits, moreDigits_eq_some_iff]
  constructor
  · rintro ⟨ds, hlength, hds, rfl, rfl⟩
    exact ⟨_, rfl, ds, hlength, hds, rfl, rfl⟩
  · rintro ⟨_, rfl, ds, hlength, hds, rfl, rfl⟩
    exact ⟨ds, hlength, hds, rfl, rfl⟩

theorem Writes.fixedDigits_append (h : Writes width text value) (rest : List Char) :
    Time.fixedDigits width (text ++ rest) = some (value, rest) :=
  fixedDigits_eq_some_iff.mpr ⟨text, rfl, h⟩

end WorldQuery.Number
