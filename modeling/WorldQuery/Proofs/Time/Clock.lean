import WorldQuery.Proofs.Number.Digits
import WorldQuery.Time.Iso
import Mathlib.Data.List.TakeWhile

/-!
# How clock readings are written

The relations of this module say which texts write a fraction of a second and a reading of a clock,
without saying how they are read. A text is read as what it writes, whatever is left over,
`readClock_sound`, and every text of these forms is read, `readClock_of_clockText`.
-/

namespace WorldQuery.Time

open Number Text

variable {text left : List Char} {c : Clock} {micro : Nat}

/-! ### Fractions of a second -/

/-- The text is over: nothing follows, or a null character. -/
def Ended (text : List Char) : Prop := ∀ c ∈ text.head?, c = '\x00'

/-- A fraction of a second after one of the given marks, cut to microseconds, or no fraction.
Without a mark it has at least two digits. -/
inductive FractionText (marks : List (List Char)) : List Char → Nat → Prop
  | none : FractionText marks [] 0
  | some {mark digits : List Char} {width value : Nat} : mark ∈ marks → Writes width digits value →
      1 ≤ width → 2 ≤ mark.length + width →
      FractionText marks (mark ++ digits) (value * 10 ^ 6 / 10 ^ width)

theorem micros_cut {kept more value value' : Nat} (hkept : kept = 6 ∨ kept < 6 ∧ more = 0)
    (hvalue : value' < 10 ^ more) :
    (value * 10 ^ more + value') * 10 ^ 6 / 10 ^ (kept + more) = value * 10 ^ (6 - kept) := by
  rcases hkept with rfl | ⟨hkept, rfl⟩
  · rw [pow_add, Nat.mul_comm (10 ^ 6), Nat.mul_div_mul_right _ _ (by omega),
      Nat.mul_comm value, Nat.mul_add_div (by positivity), Nat.div_eq_of_lt hvalue]
    simp
  · obtain rfl : value' = 0 := by omega
    have hsix : 10 ^ 6 = 10 ^ (6 - kept) * 10 ^ kept := by
      rw [← pow_add]
      congr 1
      omega
    rw [hsix, Nat.add_zero, pow_zero, Nat.mul_one, Nat.add_zero, ← Nat.mul_assoc,
      Nat.mul_div_cancel _ (by positivity)]

theorem ended_of_any (h : (left.head?.any (· != '\x00')) = false) : Ended left := by
  intro c hc
  rw [Option.mem_def] at hc
  simpa [hc] using h

theorem readFraction_sound {spare : Bool} (h : readFraction text = some (micro, spare)) :
    ∃ digits left width value, text = digits ++ left ∧ Writes width digits value ∧
      min text.length 6 ≤ width ∧ micro = value * 10 ^ 6 / 10 ^ width ∧
      (spare = false → Ended left) := by
  unfold readFraction at h
  simp only [Option.bind_eq_bind, Option.bind_eq_some_iff, Prod.exists] at h
  obtain ⟨value, rest, hfixed, h⟩ := h
  obtain ⟨front, htext, hfront⟩ := fixedDigits_eq_some_iff.mp hfixed
  obtain ⟨rfl, rfl⟩ : value * 10 ^ (6 - min text.length 6) = micro ∧ _ = spare := by
    simpa using h
  have hmore : ∀ c ∈ rest.takeWhile fun c => (asciiDigit c).isSome,
      (asciiDigit c).isSome = true := fun c => List.mem_takeWhile_imp
  obtain ⟨value', hvalue'⟩ := writes_of_forall_digit hmore
  have hlength := congrArg List.length htext
  rw [List.length_append, hfront.length_eq] at hlength
  have hkept : min text.length 6 = 6 ∨ min text.length 6 < 6 ∧
      (rest.takeWhile fun c => (asciiDigit c).isSome).length = 0 := by
    have hrest := (List.takeWhile_sublist (l := rest) fun c => (asciiDigit c).isSome).length_le
    omega
  refine ⟨front ++ rest.takeWhile fun c => (asciiDigit c).isSome,
    rest.dropWhile fun c => (asciiDigit c).isSome, _, _, ?_, hfront.append hvalue',
    Nat.le_add_right _ _, (micros_cut hkept hvalue'.value_lt).symm, ended_of_any⟩
  rw [List.append_assoc, List.takeWhile_append_dropWhile, htext]

theorem readFraction_of_writes {width value : Nat} (h : Writes width text value) :
    readFraction text = some (value * 10 ^ 6 / 10 ^ width, false) := by
  obtain ⟨kept, more, rfl, hkept⟩ : ∃ kept more, width = kept + more ∧ min width 6 = kept :=
    ⟨min width 6, width - min width 6, by omega, rfl⟩
  have hlength : min text.length 6 = kept := by rw [h.length_eq, hkept]
  have hcut : kept = 6 ∨ kept < 6 ∧ more = 0 := by omega
  obtain ⟨front, back, v, v', rfl, rfl, hfront, hback⟩ := h.split
  have hdrop : back.dropWhile (fun c => (asciiDigit c).isSome) = [] :=
    List.dropWhile_eq_nil_iff.mpr fun c => hback.isSome_digit
  unfold readFraction
  simp only [Option.bind_eq_bind, hlength, hfront.fixedDigits_append back, Option.bind_some, hdrop]
  rw [micros_cut hcut hback.value_lt]
  rfl

/-! ### Clock readings -/

/-- What stands between two fields of a time. -/
def colonText (colons : Bool) : List Char := if colons then [':'] else []

def fractionMarks : List (List Char) := [['.'], [',']]

/-- A clock reading: hours, hours and minutes, or seconds too, two digits each, and a fraction of a
second after the last of them. After seconds the fraction may also stand as one more field. -/
inductive ClockText : List Char → Clock → Prop
  | hours {h f : List Char} {hour micro : Nat} : Writes 2 h hour →
      FractionText fractionMarks f micro → ClockText (h ++ f) ⟨hour, 0, 0, micro⟩
  | minutes (colons : Bool) {h m f : List Char} {hour minute micro : Nat} : Writes 2 h hour →
      Writes 2 m minute → FractionText fractionMarks f micro →
      ClockText (h ++ (colonText colons ++ (m ++ f))) ⟨hour, minute, 0, micro⟩
  | seconds (colons : Bool) {h m s f : List Char} {hour minute second micro : Nat} :
      Writes 2 h hour → Writes 2 m minute → Writes 2 s second →
      FractionText (colonText colons :: fractionMarks) f micro →
      ClockText (h ++ (colonText colons ++ (m ++ (colonText colons ++ (s ++ f)))))
        ⟨hour, minute, second, micro⟩

theorem ClockText.forall_mem {P : Char → Prop} (h : ClockText text c)
    (hdigit : ∀ d < 10, P (digitChar d)) (hcolon : P ':') (hpoint : P '.') (hcomma : P ',') :
    ∀ ch ∈ text, P ch := by
  have hcolons (colons : Bool) : ∀ ch ∈ colonText colons, P ch := by
    cases colons <;> simp [colonText, hcolon]
  have hmarks : ∀ mark ∈ fractionMarks, ∀ ch ∈ mark, P ch := by
    simp [fractionMarks, hpoint, hcomma]
  have hfraction {marks : List (List Char)} {f : List Char} {micro : Nat}
      (hmarks : ∀ mark ∈ marks, ∀ ch ∈ mark, P ch) (h : FractionText marks f micro) :
      ∀ ch ∈ f, P ch := by
    cases h with
    | none => simp
    | some hmark hdigits =>
      exact List.forall_mem_append.mpr ⟨hmarks _ hmark, hdigits.forall_mem hdigit⟩
  cases h with
  | hours hhour hf =>
    exact List.forall_mem_append.mpr ⟨hhour.forall_mem hdigit, hfraction hmarks hf⟩
  | minutes colons hhour hminute hf =>
    simp only [List.forall_mem_append]
    exact ⟨hhour.forall_mem hdigit, hcolons colons, hminute.forall_mem hdigit,
      hfraction hmarks hf⟩
  | seconds colons hhour hminute hsecond hf =>
    simp only [List.forall_mem_append]
    exact ⟨hhour.forall_mem hdigit, hcolons colons, hminute.forall_mem hdigit, hcolons colons,
      hsecond.forall_mem hdigit, hfraction (List.forall_mem_cons.mpr ⟨hcolons colons, hmarks⟩) hf⟩

theorem FractionText.weaken {mark : List Char} {marks : List (List Char)}
    (h : FractionText marks text micro) : FractionText (mark :: marks) text micro := by
  cases h with
  | none => exact .none
  | some hmark hdigits hwidth hlength =>
    exact .some (List.mem_cons_of_mem mark hmark) hdigits hwidth hlength

theorem afterField_finish {colons spare : Bool} (h : afterField colons text = .finish spare) :
    spare = false → Ended text := by
  rintro rfl
  unfold afterField at h
  split at h
  · intro c hc
    cases hc
  · next c =>
    split_ifs at h
    intro c' hc
    obtain rfl : c = c' := by simpa using hc
    simpa using h
  · split_ifs at h

theorem afterField_fraction {colons : Bool} {rest : List Char}
    (h : afterField colons text = .fraction rest) :
    rest ≠ [] ∧ ∃ mark ∈ fractionMarks, text = mark ++ rest ∧ mark.length = 1 := by
  unfold afterField at h
  split at h
  · cases h
  · split_ifs at h
  · next c more hmore =>
    split_ifs at h with hcolon hmark
    obtain rfl := AfterField.fraction.inj h
    refine ⟨hmore, [c], ?_, rfl, rfl⟩
    simpa [fractionMarks] using hmark

theorem afterField_field {colons : Bool} {rest : List Char}
    (h : afterField colons text = .field rest) :
    text = colonText colons ++ rest ∧ 2 ≤ text.length := by
  unfold afterField at h
  split at h
  · cases h
  · split_ifs at h
  · next c more hmore =>
    have hlength := List.length_pos_iff.mpr hmore
    split_ifs at h with hcolon hmark hcolons
    · obtain rfl := AfterField.field.inj h
      obtain ⟨rfl, rfl⟩ : colons = true ∧ c = ':' := by simpa using hcolon
      exact ⟨rfl, Nat.succ_le_succ hlength⟩
    · obtain rfl := AfterField.field.inj h
      rw [Bool.not_eq_true] at hcolons
      exact ⟨by rw [hcolons]; rfl, Nat.succ_le_succ hlength⟩

theorem fractionText_of_read {marks : List (List Char)} {mark rest : List Char} {spare : Bool}
    (hmark : mark ∈ marks) (hrest : 1 ≤ rest.length) (hlength : 2 ≤ mark.length + rest.length)
    (h : readFraction rest = some (micro, spare)) :
    ∃ f left, mark ++ rest = f ++ left ∧ FractionText marks f micro ∧
      (spare = false → Ended left) := by
  obtain ⟨digits, left, width, value, rfl, hdigits, hwidth, rfl, hended⟩ := readFraction_sound h
  refine ⟨mark ++ digits, left, (List.append_assoc ..).symm, ?_, hended⟩
  apply FractionText.some hmark hdigits <;> omega

/-- After a field the reading is over, or goes on with a fraction or with one more field. -/
theorem sound_of_afterField {colons spare : Bool} {reading : Nat → Clock}
    {next : List Char → Option (Clock × Bool)}
    (h : (match afterField colons text with
      | .malformed => none
      | .finish spare => some (reading 0, spare)
      | .fraction rest => do
        let (micro, spare) ← readFraction rest
        some (reading micro, spare)
      | .field rest => next rest) = some (c, spare)) :
    (∃ f left micro, text = f ++ left ∧ FractionText fractionMarks f micro ∧ c = reading micro ∧
      (spare = false → Ended left)) ∨
    ∃ rest, text = colonText colons ++ rest ∧ 2 ≤ text.length ∧ next rest = some (c, spare) := by
  split at h
  · cases h
  · next hafter =>
    simp only [Option.some.injEq, Prod.mk.injEq] at h
    obtain ⟨rfl, rfl⟩ := h
    exact Or.inl ⟨[], text, 0, rfl, .none, rfl, afterField_finish hafter⟩
  · next rest hafter =>
    simp only [Option.bind_eq_bind, Option.bind_eq_some_iff, Prod.exists, Option.some.injEq,
      Prod.mk.injEq] at h
    obtain ⟨micro, _, hmicro, rfl, rfl⟩ := h
    obtain ⟨hrest, mark, hmark, rfl, hlength⟩ := afterField_fraction hafter
    have hpos := List.length_pos_iff.mpr hrest
    obtain ⟨f, left, hf, hfraction, hended⟩ := fractionText_of_read hmark hpos (by omega) hmicro
    exact Or.inl ⟨f, left, micro, hf, hfraction, rfl, hended⟩
  · next rest hafter =>
    obtain ⟨htext, hlength⟩ := afterField_field hafter
    exact Or.inr ⟨rest, htext, hlength, h⟩

/-- What is left over is not looked at, unless it is asked for. -/
theorem readClock_sound {spare : Bool} (h : readClock text = some (c, spare)) :
    ∃ front left, text = front ++ left ∧ ClockText front c ∧ (spare = false → Ended left) := by
  unfold readClock at h
  simp only [Option.bind_eq_bind, Option.bind_eq_some_iff, Prod.exists] at h
  obtain ⟨hour, rest, hread, h⟩ := h
  obtain ⟨hs, rfl, hhour⟩ := fixedDigits_eq_some_iff.mp hread
  generalize (rest.head? == some ':') = colons at h
  obtain ⟨f, left, micro, rfl, hfraction, rfl, hended⟩ | ⟨more, rfl, -, hmore⟩ :=
    sound_of_afterField h
  · exact ⟨hs ++ f, left, by simp, .hours hhour hfraction, hended⟩
  simp only [Option.bind_eq_some_iff, Prod.exists] at hmore
  obtain ⟨minute, rest, hread, hminutes⟩ := hmore
  obtain ⟨ms, rfl, hminute⟩ := fixedDigits_eq_some_iff.mp hread
  obtain ⟨f, left, micro, rfl, hfraction, rfl, hended⟩ | ⟨more, rfl, -, hmore⟩ :=
    sound_of_afterField hminutes
  · exact ⟨hs ++ (colonText colons ++ (ms ++ f)), left, by simp,
      .minutes colons hhour hminute hfraction, hended⟩
  simp only [Option.bind_eq_some_iff, Prod.exists] at hmore
  obtain ⟨second, rest, hread, hseconds⟩ := hmore
  obtain ⟨ss, rfl, hsecond⟩ := fixedDigits_eq_some_iff.mp hread
  obtain ⟨f, left, micro, rfl, hfraction, rfl, hended⟩ | ⟨more, rfl, hlength, hmore⟩ :=
    sound_of_afterField hseconds
  · exact ⟨hs ++ (colonText colons ++ (ms ++ (colonText colons ++ (ss ++ f)))), left, by simp,
      .seconds colons hhour hminute hsecond hfraction.weaken, hended⟩
  -- after seconds one more field is a fraction too
  simp only [Option.bind_eq_some_iff, Prod.exists, Option.some.injEq, Prod.mk.injEq] at hmore
  obtain ⟨micro, _, hmicro, rfl, rfl⟩ := hmore
  rw [List.length_append] at hlength
  have hcolon : (colonText colons).length ≤ 1 := by cases colons <;> decide
  obtain ⟨f, left, hf, hfraction, hended⟩ :=
    fractionText_of_read List.mem_cons_self (by omega) hlength hmicro
  exact ⟨hs ++ (colonText colons ++ (ms ++ (colonText colons ++ (ss ++ f)))), left, by simp [hf],
    .seconds colons hhour hminute hsecond hfraction, hended⟩

/-! ### Reading what is written -/

theorem head?_colonText (colons : Bool) {rest : List Char} (h : rest.head? ≠ some ':') :
    ((colonText colons ++ rest).head? == some ':') = colons := by
  cases colons with
  | true => rfl
  | false => simpa [colonText] using h

theorem afterField_mark {colons : Bool} {mark rest : List Char} (hmark : mark ∈ fractionMarks)
    (hrest : rest ≠ []) : afterField colons (mark ++ rest) = .fraction rest := by
  obtain ⟨d, rest, rfl⟩ := List.exists_cons_of_ne_nil hrest
  simp only [fractionMarks, List.mem_cons, List.not_mem_nil, or_false] at hmark
  rcases hmark with rfl | rfl <;> cases colons <;> rfl

theorem digitChar_ne_mark :
    ∀ d < 10, digitChar d ≠ ':' ∧ digitChar d ≠ '.' ∧ digitChar d ≠ ',' := by decide

theorem afterField_digit {colons : Bool} {d : Nat} (hd : d < 10) {rest : List Char}
    (hrest : 2 ≤ (colonText colons ++ digitChar d :: rest).length) :
    afterField colons (colonText colons ++ digitChar d :: rest) = .field (digitChar d :: rest) := by
  obtain ⟨hcolon, hpoint, hcomma⟩ := digitChar_ne_mark d hd
  cases colons with
  | true => rfl
  | false =>
    cases rest with
    | nil => simp [colonText] at hrest
    | cons c rest => simp [colonText, afterField, hpoint, hcomma]

/-- A field is told from a mark by its first digit. -/
theorem afterField_writes (colons : Bool) {width value : Nat} (h : Writes (width + 1) text value)
    (rest : List Char) (hlength : 2 ≤ (colonText colons ++ (text ++ rest)).length) :
    afterField colons (colonText colons ++ (text ++ rest)) = .field (text ++ rest) := by
  obtain ⟨d, more, hd, rfl⟩ := h.exists_cons
  exact afterField_digit hd hlength

theorem head?_writes {width value : Nat} (h : Writes (width + 1) text value) (rest : List Char) :
    (text ++ rest).head? ≠ some ':' := by
  obtain ⟨d, more, hd, rfl⟩ := h.exists_cons
  simpa using (digitChar_ne_mark d hd).1

theorem afterField_fractionText {f : List Char} (h : FractionText fractionMarks f micro)
    (colons : Bool) :
    afterField colons f = .finish false ∧ micro = 0 ∨
      ∃ digits, afterField colons f = .fraction digits ∧
        readFraction digits = some (micro, false) := by
  cases h with
  | none => exact Or.inl ⟨rfl, rfl⟩
  | some hmark hdigits hwidth hlength =>
    exact Or.inr ⟨_, afterField_mark hmark (hdigits.ne_nil hwidth), readFraction_of_writes hdigits⟩

/-- After seconds it may also be read as one more field. -/
theorem afterField_secondsFraction {colons : Bool} {f : List Char}
    (h : FractionText (colonText colons :: fractionMarks) f micro) :
    afterField colons f = .finish false ∧ micro = 0 ∨
      ∃ digits, (afterField colons f = .fraction digits ∨
        afterField colons f = .field digits) ∧
        readFraction digits = some (micro, false) := by
  cases h with
  | none => exact Or.inl ⟨rfl, rfl⟩
  | @some mark digits width value hmark hdigits hwidth hlength =>
    refine Or.inr ⟨digits, ?_, readFraction_of_writes hdigits⟩
    rcases List.mem_cons.mp hmark with rfl | hmark
    · obtain ⟨width, rfl⟩ := Nat.exists_eq_add_of_le' hwidth
      have hfield := afterField_writes colons hdigits [] (by
        simpa [hdigits.length_eq] using hlength)
      rw [List.append_nil] at hfield
      exact Or.inr hfield
    · exact Or.inl (afterField_mark hmark (hdigits.ne_nil hwidth))

theorem readClock_of_clockText (h : ClockText text c) : readClock text = some (c, false) := by
  cases h with
  | @hours hs f hour micro hhour hfraction =>
    rcases afterField_fractionText hfraction (f.head? == some ':') with
      ⟨hafter, rfl⟩ | ⟨digits, hafter, hread⟩
    · simp only [readClock, hhour.fixedDigits_append, Option.bind_eq_bind, Option.bind_some, hafter]
    · simp only [readClock, hhour.fixedDigits_append, Option.bind_eq_bind, Option.bind_some, hafter,
        hread]
  | @minutes colons hs ms f hour minute micro hhour hminute hfraction =>
    have hcolons := head?_colonText colons (head?_writes hminute f)
    have hfield := afterField_writes colons hminute f (by
      simp only [List.length_append, hminute.length_eq]
      omega)
    rcases afterField_fractionText hfraction colons with ⟨hafter, rfl⟩ | ⟨digits, hafter, hread⟩
    · simp only [readClock, hhour.fixedDigits_append, Option.bind_eq_bind, Option.bind_some,
        hcolons, hfield, hminute.fixedDigits_append, hafter]
    · simp only [readClock, hhour.fixedDigits_append, Option.bind_eq_bind, Option.bind_some,
        hcolons, hfield, hminute.fixedDigits_append, hafter, hread]
  | @seconds colons hs ms ss f hour minute second micro hhour hminute hsecond hfraction =>
    have hcolons := head?_colonText colons
      (head?_writes hminute (colonText colons ++ (ss ++ f)))
    have hfield := afterField_writes colons hminute (colonText colons ++ (ss ++ f)) (by
      simp only [List.length_append, hminute.length_eq]
      omega)
    have hfield' := afterField_writes colons hsecond f (by
      simp only [List.length_append, hsecond.length_eq]
      omega)
    rcases afterField_secondsFraction hfraction with
      ⟨hafter, rfl⟩ | ⟨digits, hafter | hafter, hread⟩
    · simp only [readClock, hhour.fixedDigits_append, Option.bind_eq_bind, Option.bind_some,
        hcolons, hfield, hfield', hminute.fixedDigits_append, hsecond.fixedDigits_append, hafter]
    all_goals
      simp only [readClock, hhour.fixedDigits_append, Option.bind_eq_bind, Option.bind_some,
        hcolons, hfield, hfield', hminute.fixedDigits_append, hsecond.fixedDigits_append, hafter,
        hread]

theorem FractionText.micro_lt {marks : List (List Char)} (h : FractionText marks text micro) :
    micro < 1000000 := by
  cases h with
  | none => decide
  | @some mark digits width value hmark hdigits hwidth hlength =>
    have hvalue := hdigits.value_lt
    rw [Nat.div_lt_iff_lt_mul (by positivity), Nat.mul_comm]
    exact Nat.mul_lt_mul_of_pos_left hvalue (by decide)

theorem ClockText.micro_lt (h : ClockText text c) : c.micro < 1000000 := by
  cases h with
  | hours _ hfraction | minutes _ _ _ hfraction | seconds _ _ _ _ hfraction =>
    exact hfraction.micro_lt

theorem ClockText.micros_lt_iff (h : ClockText text c) :
    c.micros < 1000000 ↔ c.hour = 0 ∧ c.minute = 0 ∧ c.second = 0 := by
  have hmicro := h.micro_lt
  unfold Clock.micros
  omega

end WorldQuery.Time
