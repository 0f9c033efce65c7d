import WorldQuery.Proofs.Felt
import WorldQuery.Proofs.Number.Numerals

/-!
# Which texts are field elements

`Felt.Denotes` says which field element an integer or a text denotes, by the grammar of numerals
alone. Exactly these are accepted, `ofDatum_eq_ok_iff`, and they have one canonical text for each
number.
-/

namespace WorldQuery.Felt

open Number Text Success

variable {core : List Char} {n : Nat} {s : String} {d : Datum}

/-! ### The grammar -/

/-- A text without blanks at its ends that stands for a field element: a hexadecimal numeral behind
`0x`, or decimal digits of any script, which are not too many. -/
inductive ElementText : List Char → Nat → Prop
  | hexadecimal {x : Char} {rest : List Char} {n : Nat} : x = 'x' ∨ x = 'X' →
      NumeralText 16 rest n → ElementText ('0' :: x :: rest) n
  | decimal {text : List Char} {ds : List Nat} : text ≠ [] →
      text.map decimalValue? = ds.map some → ds.length ≤ digitLimit →
      ElementText text (ofDigits 10 ds)

/-- The field element that a datum denotes. -/
inductive Denotes : Datum → Nat → Prop
  | int (n : Nat) : Denotes (.int n) n
  | text {s : String} {core : List Char} {n : Nat} : Stripped s.toList core →
      ElementText core n → Denotes (.text s) n

/-! ### Decimal texts -/

theorem isDigit_of_isNumeralBlank {c : Char} (h : isNumeralBlank c = true) :
    isDigit c = false := by
  unfold isNumeralBlank at h
  rw [Bool.and_eq_true] at h
  exact forall_blank (P := fun c => isDigit c = false) (by decide +kernel) h.1

theorem digitIn_ten_iff {c : Char} {d : Nat} :
    digitIn 10 c = some d ↔ decimalValue? c = some d := by
  unfold digitIn
  cases h : decimalValue? c with
  | none => simp
  | some e => simp [decimalValue?_lt h]

theorem isSome_of_values {ds : List Nat} (h : core.map decimalValue? = ds.map some) :
    ∀ c ∈ core, (decimalValue? c).isSome = true := by
  intro c hc
  have hmem : decimalValue? c ∈ ds.map some := h ▸ List.mem_map_of_mem hc
  obtain ⟨d, -, hd⟩ := List.mem_map.mp hmem
  rw [← hd]
  rfl

theorem length_of_values {ds : List Nat} (h : core.map decimalValue? = ds.map some) :
    core.length = ds.length := by
  simpa using congrArg List.length h

theorem digitText_iff {ds : List Nat} (h : '_' ∉ core) :
    DigitText 10 core ds ↔ core ≠ [] ∧ core.map decimalValue? = ds.map some := by
  constructor
  · intro hdigits
    induction hdigits with
    | last hc => exact ⟨by simp, by simp [digitIn_ten_iff.mp hc]⟩
    | digit hc _ ih =>
      rw [List.mem_cons, not_or] at h
      exact ⟨by simp, by simp [digitIn_ten_iff.mp hc, (ih h.2).2]⟩
    | underscore => simp at h
  · rintro ⟨hne, hdigits⟩
    induction core generalizing ds with
    | nil => exact absurd rfl hne
    | cons c rest ih =>
      cases ds with
      | nil => simp at hdigits
      | cons d ds =>
        obtain ⟨hc, hrest⟩ := List.cons.inj hdigits
        cases rest with
        | nil =>
          obtain rfl : ds = [] := by simpa using hrest.symm
          exact .last (digitIn_ten_iff.mpr hc)
        | cons c' rest =>
          rw [List.mem_cons, not_or] at h
          exact .digit (digitIn_ten_iff.mpr hc) (ih h.2 (by simp) hrest)

theorem readInteger_ten_eq_ok_iff {i : Int} :
    allDigits core = true ∧ readInteger 10 core = .ok i ↔
      ∃ ds, core ≠ [] ∧ core.map decimalValue? = ds.map some ∧ ds.length ≤ digitLimit ∧
        i = ofDigits 10 ds := by
  rw [readInteger_eq_ok_iff (Or.inl rfl)]
  constructor
  · rintro ⟨hall, before, sign, mark, digits, after, negative, ds, rfl, hbefore, hafter, hsign,
      hmark, hdigits, hlimit, rfl⟩
    have hdigit : ∀ c ∈ before ++ (sign ++ (mark ++ (digits ++ after))), isDigit c = true := by
      rw [allDigits, Bool.and_eq_true] at hall
      exact List.all_eq_true.mp hall.2
    simp only [List.forall_mem_append] at hdigit
    obtain ⟨hbefore', hsigned, -, hdigits', hafter'⟩ := hdigit
    have hnil : ∀ {text : List Char}, (∀ c ∈ text, isNumeralBlank c = true) →
        (∀ c ∈ text, isDigit c = true) → text = [] := by
      intro text hblank hdigit
      refine List.eq_nil_iff_forall_not_mem.mpr fun c hc => ?_
      exact absurd (hdigit c hc) (by simp [isDigit_of_isNumeralBlank (hblank c hc)])
    obtain rfl := hnil hbefore hbefore'
    obtain rfl := hnil hafter hafter'
    have hunderscore : '_' ∉ digits := fun h => absurd (hdigits' _ h) (by decide)
    cases hsign with
    | plus => exact absurd (hsigned '+' (by simp)) (by decide)
    | minus => exact absurd (hsigned '-' (by simp)) (by decide)
    | none =>
      cases hmark with
      | mark h | underscore h => exact absurd h (by decide)
      | none =>
        obtain ⟨hne, hvalues⟩ := (digitText_iff hunderscore).mp hdigits
        exact ⟨ds, by simpa using hne, by simpa using hvalues, hlimit rfl, rfl⟩
  · rintro ⟨ds, hne, hvalues, hlimit, rfl⟩
    have hvalue := isSome_of_values hvalues
    have hunderscore : '_' ∉ core := fun h => absurd (hvalue _ h) (by decide)
    refine ⟨?_, [], [], [], core, [], false, ds, by simp, by simp, by simp, .none, .none,
      (digitText_iff hunderscore).mpr ⟨hne, hvalues⟩, fun _ => hlimit, rfl⟩
    rw [allDigits, Bool.and_eq_true, List.all_eq_true]
    exact ⟨by simpa using hne, fun c hc => by simp [isDigit, hvalue c hc]⟩

/-! ### What is accepted -/

theorem not_decimal_of_mark {x : Char} {rest : List Char} {ds : List Nat} (hx : x = 'x' ∨ x = 'X') :
    ('0' :: x :: rest).map decimalValue? ≠ ds.map some := by
  intro hvalues
  have hnone : decimalValue? x = none := by
    rcases hx with rfl | rfl <;> decide
  have hsome := isSome_of_values hvalues x (by simp)
  simp [hnone] at hsome

theorem decimal_eq_ok_iff : (if allDigits core = true then (readInteger 10 core).mapError .numeral
    else .error (.malformedElement (.text s)) : Except ScalarFault Int) = .ok (n : Int) ↔
      ∃ ds, core ≠ [] ∧ core.map decimalValue? = ds.map some ∧ ds.length ≤ digitLimit ∧
        n = ofDigits 10 ds := by
  have hread := @readInteger_ten_eq_ok_iff core n
  simp only [Nat.cast_inj] at hread
  rw [← hread]
  split_ifs with hall
  · rw [mapError_eq_ok_iff]
    exact (and_iff_right hall).symm
  · exact iff_of_false nofun fun h => hall h.1

theorem readText_eq_ok_iff : readText s = .ok (n : Int) ↔ ElementText (trim s.toList) n := by
  unfold readText
  dsimp only
  generalize trim s.toList = body
  split
  · next x rest =>
    by_cases hx : x = 'x' ∨ x = 'X'
    · rw [if_pos hx, mapError_eq_ok_iff, readInteger_eq_ok_iff (Or.inr rfl)]
      constructor
      · exact .hexadecimal hx
      · intro h
        cases h with
        | hexadecimal _ h => exact h
        | decimal _ hvalues => exact absurd hvalues (not_decimal_of_mark hx)
    · rw [if_neg hx, decimal_eq_ok_iff]
      constructor
      · rintro ⟨ds, hne, hvalues, hlimit, rfl⟩
        exact .decimal hne hvalues hlimit
      · intro h
        cases h with
        | hexadecimal hx' => exact absurd hx' hx
        | decimal hne hvalues hlimit => exact ⟨_, hne, hvalues, hlimit, rfl⟩
  · next hother =>
    rw [decimal_eq_ok_iff]
    constructor
    · rintro ⟨ds, hne, hvalues, hlimit, rfl⟩
      exact .decimal hne hvalues hlimit
    · intro h
      cases h with
      | hexadecimal => exact absurd rfl (hother _ _)
      | decimal hne hvalues hlimit => exact ⟨_, hne, hvalues, hlimit, rfl⟩

theorem denotes_text_iff : Denotes (.text s) n ↔ ElementText (trim s.toList) n := by
  constructor
  · rintro (_ | ⟨hcore, h⟩)
    rwa [← stripped_iff.mp hcore]
  · exact .text (stripped_trim _)

/-- Exactly the data that denote a field element are accepted, as that element. -/
theorem ofDatum_eq_ok_iff : ofDatum d = .ok n ↔ Denotes d n := by
  have hsign : ∀ {i : Int}, (if i < 0 then .error (.showing d (.negativeElement d))
      else .ok i.toNat : Except ScalarFault Nat) = .ok n ↔ i = n := by
    intro i
    split_ifs with hneg
    · exact iff_of_false nofun (by omega)
    · rw [Except.ok.injEq]
      omega
  unfold ofDatum
  cases d with
  | int i =>
    refine hsign.trans ⟨?_, ?_⟩
    · rintro rfl
      exact .int n
    · rintro ⟨⟩
      rfl
  | text s =>
    simp only [bind_eq_ok_iff, hsign, exists_eq_right, readText_eq_ok_iff]
    exact denotes_text_iff.symm
  | null | bool | real | illFormed | blob | moment | list | object =>
    exact iff_of_false nofun nofun

theorem Denotes.unique {m : Nat} (h : Denotes d n) (h' : Denotes d m) : n = m :=
  Except.ok.inj ((ofDatum_eq_ok_iff.mpr h).symm.trans (ofDatum_eq_ok_iff.mpr h'))

theorem canonical_of_denotes (h : Denotes d n) : canonical d = .ok (render n) := by
  rw [canonical, ofDatum_eq_ok_iff.mpr h]
  rfl

theorem canonical_eq_ok_iff : canonical d = .ok s ↔ ∃ n, Denotes d n ∧ render n = s := by
  simp only [canonical, map_eq_ok_iff, ofDatum_eq_ok_iff]

theorem denotes_render (n : Nat) : Denotes (.text (render n)) n := by
  rw [← ofDatum_eq_ok_iff, ofDatum_render]

/-! ### One text for each number -/

theorem toList_render (n : Nat) : (render n).toList = '0' :: 'x' :: Nat.toDigits 16 n := by
  rw [render, String.toList_ofList, numeral_eq_toDigits (by decide) (by decide)]

theorem render_injective : Function.Injective render := by
  intro n m h
  exact (denotes_render n).unique (h ▸ denotes_render m)

/-- The canonical text of what a datum denotes is a normal form: it consists of `0x` and the
hexadecimal digits of the number, denotes the number again, is its own canonical text, and is that
of another datum exactly if that denotes the same number. What denotes no number is refused for its
kind or its content. -/
theorem canonical_normalForm (d : Datum) :
    (∀ s, canonical d = .ok s ↔
      ∃ n, Denotes d n ∧ s.toList = '0' :: 'x' :: Nat.toDigits 16 n) ∧
    (∀ n s, Denotes d n → canonical d = .ok s → Canonical s ∧
      (∀ m, Denotes (.text s) m ↔ m = n) ∧ canonical (.text s) = .ok s ∧
      ∀ e m t, Denotes e m → canonical e = .ok t → (s = t ↔ n = m)) ∧
    ∀ fault, canonical d = .error fault → fault.nature = .kind ∨ fault.nature = .content := by
  refine ⟨fun s => ?_, fun n s hn hs => ?_, fun fault h => ?_⟩
  · rw [canonical_eq_ok_iff]
    refine exists_congr fun n => and_congr_right fun _ => ?_
    rw [← toList_render, String.toList_inj, eq_comm]
  · obtain rfl := Except.ok.inj ((canonical_of_denotes hn).symm.trans hs)
    refine ⟨render_canonical n, fun m => ⟨fun h => h.unique (denotes_render n), ?_⟩,
      canonical_render n, fun e m t hm ht => ?_⟩
    · rintro rfl
      exact denotes_render m
    · obtain rfl := Except.ok.inj ((canonical_of_denotes hm).symm.trans ht)
      exact render_injective.eq_iff
  · cases hnature : fault.nature with
    | kind => exact Or.inl rfl
    | content => exact Or.inr rfl
    | overflow => exact absurd hnature (nature_of_canonical h)

/-- A number in two spellings has one canonical text, and a truth value has none. -/
theorem canonical_normalForm_spellings :
    Denotes (.text " 0X00FF ") 255 ∧ Denotes (.text "255") 255 ∧
      (∃ s, canonical (.text " 0X00FF ") = .ok s ∧ s.toList = ['0', 'x', 'f', 'f'] ∧ Canonical s ∧
        canonical (.text "255") = .ok s) ∧
      ∃ fault, canonical (.bool true) = .error fault ∧
        (fault.nature = .kind ∨ fault.nature = .content) := by
  have hmarked : Denotes (.text " 0X00FF ") 255 := ofDatum_eq_ok_iff.mp rfl
  have hdecimal : Denotes (.text "255") 255 := ofDatum_eq_ok_iff.mp rfl
  have hother : canonical (.text "255") = .ok (render 255) := canonical_of_denotes hdecimal
  obtain ⟨hvalue, hnormal, -⟩ := canonical_normalForm (.text " 0X00FF ")
  have hs : canonical (.text " 0X00FF ") = .ok "0xff" := (hvalue _).mpr ⟨255, hmarked, rfl⟩
  obtain ⟨hcanonical, -, -, hequal⟩ := hnormal 255 _ hmarked hs
  have hsame : "0xff" = render 255 := (hequal _ 255 _ hdecimal hother).mpr rfl
  exact ⟨hmarked, hdecimal, ⟨_, hs, rfl, hcanonical, hsame ▸ hother⟩,
    _, rfl, (canonical_normalForm (.bool true)).2.2 _ rfl⟩

end WorldQuery.Felt
