import WorldQuery.Number.Numeral
import WorldQuery.Proofs.Text.Pieces
import Mathlib.Data.List.TakeWhile
import Mathlib.Tactic

/-!
# The grammar of integer numerals

A numeral stands between blanks and consists of a sign, in base sixteen a mark, and digits with
single underscores between them. `NumeralText` says so without reading anything, and
`readInteger_eq_ok_iff` that these are the texts `readInteger` accepts, with their values.
-/

namespace WorldQuery.Number

open Text

variable {base : Nat} {text front rest : List Char} {ds : List Nat}

/-! ### The grammar -/

/-- Digits, with at most one underscore between two of them. -/
inductive DigitText (base : Nat) : List Char → List Nat → Prop
  | last {c : Char} {d : Nat} : digitIn base c = some d → DigitText base [c] [d]
  | digit {c : Char} {d : Nat} {text : List Char} {ds : List Nat} : digitIn base c = some d →
      DigitText base text ds → DigitText base (c :: text) (d :: ds)
  | underscore {c : Char} {d : Nat} {text : List Char} {ds : List Nat} : digitIn base c = some d →
      DigitText base text ds → DigitText base (c :: '_' :: text) (d :: ds)

/-- A sign in front of a numeral, and whether it is a minus. -/
inductive SignText : List Char → Bool → Prop
  | none : SignText [] false
  | plus : SignText ['+'] false
  | minus : SignText ['-'] true

/-- The mark of base sixteen, which may be left out. The zero may be that of any script. -/
inductive MarkText (base : Nat) : List Char → Prop
  | none : MarkText base []
  | mark {zero x : Char} : base = 16 → decimalValue? zero = some 0 → x = 'x' ∨ x = 'X' →
      MarkText base [zero, x]
  | underscore {zero x : Char} : base = 16 → decimalValue? zero = some 0 → x = 'x' ∨ x = 'X' →
      MarkText base [zero, x, '_']

def signed (negative : Bool) (n : Nat) : Int := if negative then -(n : Int) else n

/-- A numeral between blanks, and its value. Decimal numerals are not too long. -/
def NumeralText (base : Nat) (text : List Char) (i : Int) : Prop :=
  ∃ before sign mark digits after negative ds,
    text = before ++ (sign ++ (mark ++ (digits ++ after))) ∧
    (∀ c ∈ before, isNumeralBlank c = true) ∧ (∀ c ∈ after, isNumeralBlank c = true) ∧
    SignText sign negative ∧ MarkText base mark ∧ DigitText base digits ds ∧
    (base = 10 → ds.length ≤ digitLimit) ∧ i = signed negative (ofDigits base ds)

/-! ### Runs of digits -/

/-- The text does not go on with a digit or an underscore. -/
def Stops (base : Nat) (text : List Char) : Prop :=
  ∀ c ∈ text.head?, digitIn base c = none ∧ c ≠ '_'

theorem DigitText.exists_cons (h : DigitText base text ds) :
    ∃ c rest d, text = c :: rest ∧ digitIn base c = some d := by
  cases h with
  | last hc => exact ⟨_, _, _, rfl, hc⟩
  | digit hc => exact ⟨_, _, _, rfl, hc⟩
  | underscore hc => exact ⟨_, _, _, rfl, hc⟩

theorem digitIn_underscore (base : Nat) : digitIn base '_' = none := by
  have hvalue : decimalValue? '_' = none := by decide
  unfold digitIn
  rw [hvalue]
  split_ifs with hbase hlower hupper
  · rfl
  · exact absurd hlower (by decide)
  · exact absurd hupper (by decide)
  · rfl

theorem ne_underscore {c : Char} {d : Nat} (h : digitIn base c = some d) : c ≠ '_' := by
  rintro rfl
  rw [digitIn_underscore] at h
  cases h

theorem scanDigits_digit {c : Char} {d : Nat} (h : digitIn base c = some d) :
    scanDigits base (c :: rest) =
      (scanDigits base rest).map fun (ds, left) => (d :: ds, left) := by
  rw [scanDigits.eq_def]
  simp [ne_underscore h, h]

theorem scanDigits_underscore {c : Char} (h : (digitIn base c).isSome = true) :
    scanDigits base ('_' :: c :: rest) = scanDigits base (c :: rest) := by
  rw [scanDigits.eq_def]
  simp [h]

theorem scanDigits_of_stops (h : Stops base rest) : scanDigits base rest = some ([], rest) := by
  cases rest with
  | nil => rfl
  | cons c more =>
    obtain ⟨hdigit, hunderscore⟩ := h c rfl
    rw [scanDigits.eq_def]
    simp [hdigit, hunderscore]

theorem scanDigits_append (h : DigitText base front ds) (hstops : Stops base rest) :
    scanDigits base (front ++ rest) = some (ds, rest) := by
  induction h with
  | last hc =>
    rw [List.singleton_append, scanDigits_digit hc, scanDigits_of_stops hstops]
    rfl
  | digit hc _ ih =>
    rw [List.cons_append, scanDigits_digit hc, ih]
    rfl
  | underscore hc htext ih =>
    obtain ⟨c', rest', d', rfl, hc'⟩ := htext.exists_cons
    rw [List.cons_append, scanDigits_digit hc, List.cons_append, List.cons_append,
      scanDigits_underscore (by simp [hc']), ← List.cons_append, ih]
    rfl

theorem digitRun_append (h : DigitText base front ds) (hstops : Stops base rest) :
    digitRun base (front ++ rest) = some (ds, rest) := by
  rw [← scanDigits_append h hstops]
  obtain ⟨c, more, d, rfl, hc⟩ := h.exists_cons
  simp [digitRun, hc]

/-- What a scan has passed over: nothing, digits, or digits behind an underscore. -/
theorem scanDigits_eq_some (h : scanDigits base text = some (ds, rest)) :
    Stops base rest ∧ (ds = [] ∧ text = rest ∨ ∃ front, DigitText base front ds ∧
      (text = front ++ rest ∨ text = '_' :: (front ++ rest))) := by
  induction text generalizing ds with
  | nil =>
    obtain ⟨rfl, rfl⟩ := Prod.mk.inj (Option.some.inj h)
    exact ⟨by simp [Stops], Or.inl ⟨rfl, rfl⟩⟩
  | cons c more ih =>
    rw [scanDigits.eq_def] at h
    dsimp only at h
    split_ifs at h with hunderscore
    · subst hunderscore
      cases more with
      | nil => simp at h
      | cons d tail =>
        dsimp only at h
        split_ifs at h with hd
        obtain ⟨hstops, ⟨rfl, rfl⟩ | ⟨front, hfront, heq | heq⟩⟩ := ih h
        · obtain ⟨hnone, -⟩ := hstops d rfl
          simp [hnone] at hd
        · exact ⟨hstops, Or.inr ⟨front, hfront, Or.inr (congrArg _ heq)⟩⟩
        · obtain ⟨rfl, -⟩ := List.cons.inj heq
          simp [digitIn_underscore] at hd
    · cases hdigit : digitIn base c with
      | none =>
        simp only [hdigit, Option.some.injEq, Prod.mk.injEq] at h
        obtain ⟨rfl, rfl⟩ := h
        refine ⟨fun c' hc' => ?_, Or.inl ⟨rfl, rfl⟩⟩
        obtain rfl : c = c' := by simpa using hc'
        exact ⟨hdigit, hunderscore⟩
      | some d =>
        simp only [hdigit] at h
        obtain ⟨⟨ds', rest'⟩, hscan, heq⟩ := Option.map_eq_some_iff.mp h
        obtain ⟨rfl, rfl⟩ := Prod.mk.inj heq
        obtain ⟨hstops, ⟨rfl, rfl⟩ | ⟨front, hfront, rfl | rfl⟩⟩ := ih hscan
        · exact ⟨hstops, Or.inr ⟨[c], .last hdigit, Or.inl rfl⟩⟩
        · exact ⟨hstops, Or.inr ⟨c :: front, .digit hdigit hfront, Or.inl rfl⟩⟩
        · exact ⟨hstops, Or.inr ⟨c :: '_' :: front, .underscore hdigit hfront, Or.inl rfl⟩⟩

theorem digitRun_eq_some (h : digitRun base text = some (ds, rest)) :
    ∃ front, text = front ++ rest ∧ DigitText base front ds ∧ Stops base rest := by
  cases text with
  | nil => simp [digitRun] at h
  | cons c more =>
    rw [digitRun] at h
    split_ifs at h with hc
    obtain ⟨hstops, ⟨-, rfl⟩ | ⟨front, hfront, heq | heq⟩⟩ := scanDigits_eq_some h
    · obtain ⟨hnone, -⟩ := hstops c rfl
      simp [hnone] at hc
    · exact ⟨front, heq, hfront, hstops⟩
    · obtain ⟨rfl, -⟩ := List.cons.inj heq
      simp [digitIn_underscore] at hc

/-! ### Blanks, signs and marks -/

/-- Characters that are no digits, signs, underscores, or letters of the mark. -/
def Plain (c : Char) : Prop :=
  digitIn 10 c = none ∧ digitIn 16 c = none ∧ c ≠ '_' ∧ c ≠ '+' ∧ c ≠ '-' ∧ c ≠ 'x' ∧ c ≠ 'X'

instance (c : Char) : Decidable (Plain c) := inferInstanceAs (Decidable (_ ∧ _))

theorem plain_of_isBlank {c : Char} (h : isBlank c = true) : Plain c :=
  forall_blank (P := Plain) (by decide +kernel) h

theorem plain_of_isNumeralBlank {c : Char} (h : isNumeralBlank c = true) : Plain c := by
  unfold isNumeralBlank at h
  rw [Bool.and_eq_true] at h
  exact plain_of_isBlank h.1

theorem Plain.stops (hbase : base = 10 ∨ base = 16) {c : Char} (h : Plain c) :
    digitIn base c = none ∧ c ≠ '_' := by
  rcases hbase with rfl | rfl
  · exact ⟨h.1, h.2.2.1⟩
  · exact ⟨h.2.1, h.2.2.1⟩

theorem stops_of_blank (hbase : base = 10 ∨ base = 16)
    (h : ∀ c ∈ text, isNumeralBlank c = true) : Stops base text :=
  fun c hc => (plain_of_isNumeralBlank (h c (List.mem_of_mem_head? hc))).stops hbase

theorem digitIn_signs :
    ∀ c ∈ ['+', '-', 'x', 'X'], digitIn 10 c = none ∧ digitIn 16 c = none := by
  simp only [List.forall_mem_cons, List.not_mem_nil, false_implies, implies_true]
  decide

theorem digit_plain (hbase : base = 10 ∨ base = 16) {c : Char} {d : Nat}
    (h : digitIn base c = some d) :
    isNumeralBlank c = false ∧ c ≠ '+' ∧ c ≠ '-' ∧ c ≠ 'x' ∧ c ≠ 'X' := by
  constructor
  · rw [Bool.eq_false_iff]
    intro hblank
    rw [((plain_of_isNumeralBlank hblank).stops hbase).1] at h
    cases h
  · have hsigns : c ∉ ['+', '-', 'x', 'X'] := by
      intro hc
      obtain ⟨hten, hsixteen⟩ := digitIn_signs c hc
      rcases hbase with rfl | rfl <;> simp_all
    simpa using hsigns

theorem splitSign_spec (text : List Char) :
    ∃ sign, text = sign ++ (splitSign text).2 ∧ SignText sign (splitSign text).1 := by
  unfold splitSign
  split
  · exact ⟨['-'], rfl, .minus⟩
  · exact ⟨['+'], rfl, .plus⟩
  · exact ⟨[], rfl, .none⟩

theorem splitSign_cons {c : Char} (hminus : c ≠ '-') (hplus : c ≠ '+') (rest : List Char) :
    splitSign (c :: rest) = (false, c :: rest) := by
  unfold splitSign
  split <;> simp_all

theorem splitSign_append {sign : List Char} {negative : Bool} (h : SignText sign negative)
    (hrest : ∀ c ∈ rest.head?, c ≠ '+' ∧ c ≠ '-') :
    splitSign (sign ++ rest) = (negative, rest) := by
  cases h with
  | plus => rfl
  | minus => rfl
  | none =>
    cases rest with
    | nil => rfl
    | cons c more =>
      obtain ⟨hplus, hminus⟩ := hrest c rfl
      exact splitSign_cons hminus hplus more

theorem dropHexMark_spec (text : List Char) :
    ∃ mark, text = mark ++ dropHexMark text ∧ MarkText 16 mark := by
  unfold dropHexMark
  split
  · split_ifs with hmark
    · split
      · exact ⟨_, rfl, .underscore rfl hmark.1 hmark.2⟩
      · exact ⟨_, rfl, .mark rfl hmark.1 hmark.2⟩
    · exact ⟨[], rfl, .none⟩
  · exact ⟨[], rfl, .none⟩

theorem dropHexMark_cons {c : Char} (h : ∀ x ∈ rest.head?, x ≠ 'x' ∧ x ≠ 'X') :
    dropHexMark (c :: rest) = c :: rest := by
  cases rest with
  | nil => rfl
  | cons x more =>
    obtain ⟨hsmall, hlarge⟩ := h x rfl
    simp [dropHexMark, hsmall, hlarge]

theorem dropHexMark_append {mark digits after : List Char} (hmark : MarkText 16 mark)
    (hdigits : DigitText 16 digits ds) (hafter : ∀ c ∈ after, isNumeralBlank c = true) :
    dropHexMark (mark ++ (digits ++ after)) = digits ++ after := by
  obtain ⟨c, more, d, heq, hc⟩ := hdigits.exists_cons
  cases hmark with
  | none =>
    -- no letter of the mark stands behind a digit
    cases hdigits with
    | last =>
      refine dropHexMark_cons fun x hx => ?_
      exact (plain_of_isNumeralBlank (hafter x (List.mem_of_mem_head? hx))).2.2.2.2.2
    | digit _ hrest =>
      obtain ⟨c', more', d', rfl, hc'⟩ := hrest.exists_cons
      refine dropHexMark_cons fun x hx => ?_
      obtain rfl : c' = x := by simpa using hx
      exact (digit_plain (Or.inr rfl) hc').2.2.2
    | underscore _ hrest =>
      refine dropHexMark_cons fun x hx => ?_
      obtain rfl : '_' = x := by simpa using hx
      decide
  | mark _ hzero hx =>
    rw [heq]
    simp [dropHexMark, hzero, hx, ne_underscore hc]
  | underscore _ hzero hx =>
    simp [dropHexMark, hzero, hx]

theorem unmarked_spec (base : Nat) (text : List Char) :
    ∃ mark, text = mark ++ (if base = 16 then dropHexMark text else text) ∧ MarkText base mark := by
  split_ifs with hbase
  · subst hbase
    exact dropHexMark_spec text
  · exact ⟨[], rfl, .none⟩

section Numeral

variable {sign mark digits after : List Char} {negative : Bool} {i : Int}

theorem unmarked_append (hmark : MarkText base mark) (hdigits : DigitText base digits ds)
    (hafter : ∀ c ∈ after, isNumeralBlank c = true) :
    (if base = 16 then dropHexMark (mark ++ (digits ++ after)) else mark ++ (digits ++ after)) =
      digits ++ after := by
  split_ifs with hbase
  · subst hbase
    exact dropHexMark_append hmark hdigits hafter
  · cases hmark with
    | none => rfl
    | mark h | underscore h => exact absurd h hbase

theorem exists_digit_cons (after : List Char) (hmark : MarkText base mark)
    (hdigits : DigitText base digits ds) :
    ∃ c more d, mark ++ (digits ++ after) = c :: more ∧ digitIn base c = some d := by
  obtain ⟨c, more, d, rfl, hc⟩ := hdigits.exists_cons
  cases hmark with
  | none => exact ⟨c, _, d, rfl, hc⟩
  | mark hbase hzero | underscore hbase hzero =>
    refine ⟨_, _, 0, rfl, ?_⟩
    subst hbase
    simp [digitIn, hzero]

theorem dropWhile_numeral (hbase : base = 10 ∨ base = 16) (hsign : SignText sign negative)
    (hmark : MarkText base mark) (hdigits : DigitText base digits ds) :
    (sign ++ (mark ++ (digits ++ after))).dropWhile isNumeralBlank =
      sign ++ (mark ++ (digits ++ after)) := by
  obtain ⟨c, more, d, heq, hc⟩ := exists_digit_cons after hmark hdigits
  cases hsign with
  | none =>
    rw [heq, List.nil_append, List.dropWhile_cons, (digit_plain hbase hc).1]
    rfl
  | plus | minus => rfl

theorem readInteger_eq_ok_iff (hbase : base = 10 ∨ base = 16) :
    readInteger base text = .ok i ↔ NumeralText base text i := by
  constructor
  · intro h
    have hblank : text = text.takeWhile isNumeralBlank ++ text.dropWhile isNumeralBlank :=
      List.takeWhile_append_dropWhile.symm
    unfold readInteger at h
    obtain ⟨sign, hsign, hnegative⟩ := splitSign_spec (text.dropWhile isNumeralBlank)
    generalize splitSign (text.dropWhile isNumeralBlank) = split at h hsign hnegative
    obtain ⟨negative, body⟩ := split
    dsimp only at h hsign hnegative
    obtain ⟨mark, hbody, hmark⟩ := unmarked_spec base body
    cases hrun : digitRun base (if base = 16 then dropHexMark body else body) with
    | none => simp [hrun] at h
    | some run =>
      obtain ⟨ds, after⟩ := run
      obtain ⟨digits, hfront, hdigits, -⟩ := digitRun_eq_some hrun
      simp only [hrun] at h
      by_cases hlong : base = 10 ∧ digitLimit < ds.length
      · rw [if_pos hlong] at h
        cases h
      · rw [if_neg hlong] at h
        by_cases hafter : after.all isNumeralBlank = true
        · rw [if_pos hafter] at h
          rw [hsign, hbody, hfront] at hblank
          exact ⟨_, sign, mark, digits, after, negative, ds, hblank,
            fun c hc => List.mem_takeWhile_imp hc, List.all_eq_true.mp hafter, hnegative, hmark,
            hdigits, fun hten => not_lt.mp fun hlt => hlong ⟨hten, hlt⟩, (Except.ok.inj h).symm⟩
        · rw [if_neg hafter] at h
          cases h
  · rintro ⟨before, sign, mark, digits, after, negative, ds, rfl, hbefore, hafter, hsign, hmark,
      hdigits, hlimit, rfl⟩
    have hsplit : splitSign (sign ++ (mark ++ (digits ++ after))) =
        (negative, mark ++ (digits ++ after)) := by
      obtain ⟨c, more, d, heq, hc⟩ := exists_digit_cons after hmark hdigits
      rw [heq]
      refine splitSign_append hsign fun c' hc' => ?_
      obtain rfl : c = c' := by simpa using hc'
      exact ⟨(digit_plain hbase hc).2.1, (digit_plain hbase hc).2.2.1⟩
    have hlong : ¬(base = 10 ∧ digitLimit < ds.length) := fun h => (hlimit h.1).not_gt h.2
    unfold readInteger
    rw [List.dropWhile_append_of_pos hbefore, dropWhile_numeral hbase hsign hmark hdigits, hsplit]
    dsimp only
    rw [unmarked_append hmark hdigits hafter,
      digitRun_append hdigits (stops_of_blank hbase hafter)]
    dsimp only
    rw [if_neg hlong, if_pos (List.all_eq_true.mpr hafter)]
    rfl

end Numeral

end WorldQuery.Number
