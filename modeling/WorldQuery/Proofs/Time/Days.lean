import WorldQuery.Proofs.Number.Digits
import WorldQuery.Proofs.Time.Calendar
import WorldQuery.Time.Iso
import Mathlib.Data.List.TakeWhile

/-!
# How dates are written

`DateText` says which texts write a date, as a day of a month or as a day of an ISO week. A text is
read as the date that it writes, `readDate_sound`, and every such text is read,
`readDate_of_dateText`. Where the date ends in a longer text is found too, if what follows is not
taken for a part of it: `dateWidth_of_dateText`.
-/

namespace WorldQuery.Time

open Number Text

variable {text : List Char}

/-! ### Days by month or by week -/

/-- What stands between the parts of a date. -/
def dashText (dashes : Bool) : List Char := if dashes then ['-'] else []

/-- A date by year, month and day, or by year and week with a weekday or without, which is then a
Monday. -/
inductive DateText : List Char → Date → Prop
  | calendar (dashes : Bool) {y m d : List Char} {date : Date} : Writes 4 y date.year →
      Writes 2 m date.month → Writes 2 d date.day → date.WellFormed →
      DateText (y ++ (dashText dashes ++ (m ++ (dashText dashes ++ d)))) date
  | week (dashes : Bool) {y w : List Char} {year week : Nat} {date : Date} : Writes 4 y year →
      Writes 2 w week → IsoDay year week 1 date →
      DateText (y ++ (dashText dashes ++ 'W' :: w)) date
  | weekday (dashes : Bool) {y w d : List Char} {year week day : Nat} {date : Date} :
      Writes 4 y year → Writes 2 w week → Writes 1 d day → IsoDay year week day date →
      DateText (y ++ (dashText dashes ++ 'W' :: (w ++ (dashText dashes ++ d)))) date

theorem dash_eq_some_iff {dashes : Bool} {rest : List Char} :
    dash dashes text = some rest ↔ text = dashText dashes ++ rest := by
  cases dashes with
  | false => simp [dash, dashText]
  | true =>
    unfold dash
    rw [if_pos rfl]
    split
    · simp [dashText]
    · next hno =>
      refine iff_of_false (by simp) fun h => ?_
      exact hno rest h

theorem resolve_calendar_eq_ok_iff {year month day : Nat} {date : Date} :
    (DateFields.calendar year month day).resolve = .ok date ↔
      (⟨year, month, day⟩ : Date).WellFormed ∧ date = ⟨year, month, day⟩ := by
  rw [DateFields.resolve]
  constructor
  · intro h
    split_ifs at h with hyear hmonth hday
    refine ⟨?_, (Except.ok.inj h).symm⟩
    constructor <;> dsimp only <;> omega
  · rintro ⟨⟨hyear, hmonth, hlast, hday, hdays⟩, rfl⟩
    dsimp only at *
    rw [if_neg (by omega), if_neg (by omega), if_neg (by omega)]

theorem resolve_numbered_eq_ok_iff {k : Int} {date : Date} :
    (DateFields.numbered k).resolve = .ok date ↔
      ∃ n : Nat, k = n + 1 ∧ n < Date.lastOrdinal ∧ date = Date.after n := by
  rw [DateFields.resolve]
  constructor
  · intro h
    split_ifs at h with hlo hhi
    refine ⟨(k - 1).toNat, by omega, by omega, ?_⟩
    rw [← Date.ofOrdinal_succ, ← Except.ok.inj h]
    congr 1
    omega
  · rintro ⟨n, rfl, hn, rfl⟩
    rw [if_neg (by omega), if_neg (by omega), ← Date.ofOrdinal_succ]
    rfl

theorem weekOrdinal_zero {week day : Nat} {k : Int} (h : weekOrdinal 0 week day = some k) :
    k < 1 := by
  have hmonday : firstMonday 0 = -363 := by decide
  unfold weekOrdinal at h
  split_ifs at h with hexists
  obtain rfl := Option.some.inj h
  have hlong : hasLongWeekYear 0 = false := rfl
  rw [hlong] at hexists
  simp only [Bool.false_eq_true, and_false, or_false] at hexists
  omega

/-- No week of the year zero reaches into the calendar. -/
theorem isoDay_of_weekOrdinal {year week day : Nat} {k : Int} {date : Date}
    (h : weekOrdinal year week day = some k)
    (hresolve : (DateFields.numbered k).resolve = .ok date) :
    IsoDay year week day date ∧ date.Valid := by
  obtain ⟨n, rfl, hn, rfl⟩ := resolve_numbered_eq_ok_iff.mp hresolve
  have hyear : 1 ≤ year := by
    by_contra hzero
    obtain rfl : year = 0 := by omega
    have := weekOrdinal_zero h
    omega
  obtain ⟨m, hm, hday⟩ := (weekOrdinal_eq_some_iff hyear).mp h
  obtain rfl : n = m := by omega
  exact ⟨hday, Date.valid_iff.mpr ⟨Date.wellFormed_after n, Date.year_after_le_iff.mpr hn⟩⟩

theorem readWeek_sound {year : Nat} {dashes : Bool} {fields : DateFields}
    (h : readWeek year dashes text = some fields) :
    ∃ week day k, fields = .numbered k ∧ weekOrdinal year week day = some k ∧
      ((Writes 2 text week ∧ day = 1) ∨ ∃ w d, text = w ++ (dashText dashes ++ d) ∧
        Writes 2 w week ∧ Writes 1 d day) := by
  unfold readWeek at h
  simp only [Option.bind_eq_bind, Option.bind_eq_some_iff, Prod.exists] at h
  obtain ⟨week, rest, hread, h⟩ := h
  obtain ⟨w, rfl, hw⟩ := fixedDigits_eq_some_iff.mp hread
  split_ifs at h with hrest
  · obtain rfl := List.isEmpty_iff.mp hrest
    obtain ⟨k, hk, rfl⟩ := Option.map_eq_some_iff.mp h
    rw [List.append_nil]
    exact ⟨week, 1, k, rfl, hk, Or.inl ⟨hw, rfl⟩⟩
  · simp only [Option.bind_eq_some_iff, Prod.exists] at h
    obtain ⟨rest, hdash, day, left, hday, h⟩ := h
    obtain rfl := dash_eq_some_iff.mp hdash
    obtain ⟨d, rfl, hd⟩ := fixedDigits_eq_some_iff.mp hday
    split_ifs at h with hleft
    · obtain rfl := List.isEmpty_iff.mp hleft
      obtain ⟨k, hk, rfl⟩ := Option.map_eq_some_iff.mp h
      exact ⟨week, day, k, rfl, hk, Or.inr ⟨w, d, by rw [List.append_nil], hw, hd⟩⟩
    · cases h

theorem readDate_sound {fields : DateFields} {date : Date} (h : readDate text = some fields)
    (hresolve : fields.resolve = .ok date) : DateText text date ∧ date.Valid := by
  unfold readDate at h
  simp only [Option.bind_eq_bind, Option.bind_eq_some_iff, Prod.exists] at h
  obtain ⟨year, rest, hread, rest', hdash, h⟩ := h
  obtain ⟨y, rfl, hy⟩ := fixedDigits_eq_some_iff.mp hread
  generalize (rest.head? == some '-') = dashes at hdash h
  obtain rfl := dash_eq_some_iff.mp hdash
  split at h
  · obtain ⟨week, day, k, rfl, hk, ⟨hw, rfl⟩ | ⟨w, d, rfl, hw, hd⟩⟩ := readWeek_sound h
    · obtain ⟨hday, hvalid⟩ := isoDay_of_weekOrdinal hk hresolve
      exact ⟨.week dashes hy hw hday, hvalid⟩
    · obtain ⟨hday, hvalid⟩ := isoDay_of_weekOrdinal hk hresolve
      exact ⟨.weekday dashes hy hw hd hday, hvalid⟩
  · simp only [Option.bind_eq_some_iff, Prod.exists] at h
    obtain ⟨month, rest, hmonth, rest', hdash', day, left, hday, h⟩ := h
    obtain ⟨m, rfl, hm⟩ := fixedDigits_eq_some_iff.mp hmonth
    obtain rfl := dash_eq_some_iff.mp hdash'
    obtain ⟨d, rfl, hd⟩ := fixedDigits_eq_some_iff.mp hday
    split_ifs at h with hleft
    obtain rfl := List.isEmpty_iff.mp hleft
    obtain rfl := Option.some.inj h
    obtain ⟨hwf, rfl⟩ := resolve_calendar_eq_ok_iff.mp hresolve
    rw [List.append_nil]
    exact ⟨.calendar dashes hy hm hd hwf,
      Date.valid_iff.mpr ⟨hwf, Nat.le_of_lt_succ hy.value_lt⟩⟩

theorem head?_dashText (dashes : Bool) (rest : List Char) (h : rest.head? ≠ some '-') :
    ((dashText dashes ++ rest).head? == some '-') = dashes := by
  cases dashes with
  | true => rfl
  | false => simpa [dashText] using h

theorem dash_dashText (dashes : Bool) (rest : List Char) :
    dash dashes (dashText dashes ++ rest) = some rest := dash_eq_some_iff.mpr rfl

theorem digitChar_ne_dash : ∀ d < 10, digitChar d ≠ '-' ∧ digitChar d ≠ 'W' := by decide

theorem IsoDay.exists_weekOrdinal {year week day : Nat} {date : Date}
    (h : IsoDay year week day date) (hvalid : date.Valid) :
    ∃ k, weekOrdinal year week day = some k ∧ (DateFields.numbered k).resolve = .ok date := by
  obtain ⟨n, thursday, newYear, rfl, hday, hthursday, hyear, hrest⟩ := h
  have hpos : 1 ≤ year := hyear ▸ (Date.wellFormed_after thursday).one_le_year
  refine ⟨n + 1, (weekOrdinal_eq_some_iff hpos).mpr ⟨n, rfl, n, thursday, newYear, rfl, hday,
    hthursday, hyear, hrest⟩, resolve_numbered_eq_ok_iff.mpr ⟨n, rfl, ?_, rfl⟩⟩
  exact Date.year_after_le_iff.mp (Date.valid_iff.mp hvalid).2

theorem readDate_of_dateText {date : Date} (h : DateText text date) (hvalid : date.Valid) :
    ∃ fields, readDate text = some fields ∧ fields.resolve = .ok date := by
  cases h with
  | @calendar dashes y m d date hy hm hd hwf =>
    refine ⟨.calendar date.year date.month date.day, ?_,
      resolve_calendar_eq_ok_iff.mpr ⟨hwf, rfl⟩⟩
    obtain ⟨e, more, he, hcons⟩ := hm.exists_cons
    obtain ⟨hdash, hweek⟩ := digitChar_ne_dash e he
    have hhead := head?_dashText dashes (m ++ (dashText dashes ++ d))
      (by simpa [hcons] using hdash)
    have hdays := hd.fixedDigits_append []
    rw [List.append_nil] at hdays
    simp only [readDate, hy.fixedDigits_append, Option.bind_eq_bind, Option.bind_some, hhead,
      dash_dashText]
    split
    · next heq =>
      rw [hcons] at heq
      exact absurd (List.cons.inj heq).1 hweek
    · simp only [hm.fixedDigits_append, Option.bind_some, dash_dashText, hdays]
      rfl
  | @week dashes y w year week date hy hw hday =>
    obtain ⟨k, hk, hresolve⟩ := hday.exists_weekOrdinal hvalid
    refine ⟨.numbered k, ?_, hresolve⟩
    have hhead := head?_dashText dashes ('W' :: w) (by simp)
    have hweek := hw.fixedDigits_append []
    rw [List.append_nil] at hweek
    simp only [readDate, hy.fixedDigits_append, Option.bind_eq_bind, Option.bind_some, hhead,
      dash_dashText, readWeek, hweek]
    simp [hk]
  | @weekday dashes y w d year week day date hy hw hd hday =>
    obtain ⟨k, hk, hresolve⟩ := hday.exists_weekOrdinal hvalid
    refine ⟨.numbered k, ?_, hresolve⟩
    have hhead := head?_dashText dashes ('W' :: (w ++ (dashText dashes ++ d))) (by simp)
    have hdays := hd.fixedDigits_append []
    rw [List.append_nil] at hdays
    have hne : (dashText dashes ++ d).isEmpty = false := by
      simpa using fun _ => hd.ne_nil le_rfl
    simp only [readDate, hy.fixedDigits_append, Option.bind_eq_bind, Option.bind_some, hhead,
      dash_dashText, readWeek, hw.fixedDigits_append, hne, hdays]
    simp [hk]

/-- A character that is not taken for a part of the date before it. A week date might go on with a
weekday. -/
def Separates (day : List Char) (separator : Char) : Prop :=
  'W' ∈ day → separator ≠ '-' ∧ asciiDigit separator = none

theorem takeWhile_digits_append {width value : Nat} {rest : List Char} (h : Writes width text value)
    (hrest : ∀ separator ∈ rest.head?, asciiDigit separator = none) :
    (text ++ rest).takeWhile (fun c => (asciiDigit c).isSome) = text := by
  rw [List.takeWhile_append_of_pos fun c => h.isSome_digit]
  cases rest with
  | nil => simp
  | cons separator rest =>
    have hseparator := hrest separator rfl
    simp [hseparator]

/-- A year and a week without dashes take up seven characters. -/
theorem drop_week {y w rest : List Char} {year week : Nat} (hy : Writes 4 y year)
    (hw : Writes 2 w week) : (y ++ 'W' :: (w ++ rest)).drop 7 = rest := by
  have hlength : 7 = (y ++ 'W' :: w).length := by simp [hy.length_eq, hw.length_eq]
  rw [← List.cons_append, ← List.append_assoc, hlength, List.drop_left]

theorem dateWidth_of_dateText {day : List Char} (rest : List Char) {date : Date}
    (h : DateText day date) (hrest : ∀ separator ∈ rest.head?, Separates day separator) :
    dateWidth (day ++ rest) = some day.length := by
  have hhead (hweek : 'W' ∈ day) :
      rest[0]? ≠ some '-' ∧ (rest[0]?.bind asciiDigit).isSome = false := by
    cases rest with
    | nil => simp
    | cons separator rest =>
      have hseparator := hrest separator rfl hweek
      simp [hseparator.1, hseparator.2]
  cases h with
  | @calendar dashes y m d date hy hm hd hwf =>
    obtain ⟨e, more, he, rfl⟩ := hm.exists_cons
    obtain ⟨hdash, hweek⟩ := digitChar_ne_dash e he
    have hmore : more.length = 1 := by simpa using hm.length_eq
    cases dashes with
    | false =>
      simp [dateWidth, dashText, hy.length_eq, hmore, hd.length_eq, hdash, hweek]
      omega
    | true =>
      simp [dateWidth, dashText, List.getElem?_append, hy.length_eq, hmore, hd.length_eq, hweek]
      omega
  | @week dashes y w year week date hy hw hday =>
    obtain ⟨hdash, -⟩ := hhead (by simp)
    cases dashes with
    | false =>
      have hempty : Writes 0 [] 0 := ⟨[], rfl, by simp, rfl, rfl⟩
      have hnone := takeWhile_digits_append hempty fun c hc => (hrest c hc (by simp)).2
      rw [List.nil_append] at hnone
      simp [dateWidth, dashText, hy.length_eq, hw.length_eq, drop_week hy hw, hnone]
      omega
    | true =>
      simp [dateWidth, dashText, List.getElem?_append, hy.length_eq, hw.length_eq, hdash]
      omega
  | @weekday dashes y w d year week day date hy hw hd hday =>
    obtain ⟨-, hdigit⟩ := hhead (by simp)
    cases dashes with
    | false =>
      have hdigits := takeWhile_digits_append hd fun c hc => (hrest c hc (by simp)).2
      simp [dateWidth, dashText, hy.length_eq, hw.length_eq, hd.length_eq, drop_week hy hw, hdigits]
      omega
    | true =>
      simp [dateWidth, dashText, List.getElem?_append, hy.length_eq, hw.length_eq, hd.length_eq,
        hdigit]
      rw [if_neg (by omega), if_neg (by omega)]
      exact ⟨by omega, rfl⟩

end WorldQuery.Time
