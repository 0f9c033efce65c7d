import WorldQuery.Time.Calendar
import Mathlib.Tactic

/-!
# Counting days

`Date.next` is the day after a date; only the lengths of the months and the rule of leap years go
into it. `Date.after n` is the date that is `n` days after the first of January of year one. The
count of a date and the date of a count agree with it: `Date.ordinal_after`, `Date.ofOrdinal_succ`.
A week date is the day that ISO 8601 means by it, `weekOrdinal_eq_some_iff`.
-/

namespace WorldQuery.Time

variable {year : Nat}

/-! ### Years and months -/

def yearLength (year : Nat) : Nat := if isLeap year then 366 else 365

theorem isLeap_iff :
    isLeap year = true ↔ year % 4 = 0 ∧ (year % 100 ≠ 0 ∨ year % 400 = 0) := by
  simp [isLeap]

theorem daysBeforeYear_succ (h : 1 ≤ year) :
    daysBeforeYear (year + 1) = daysBeforeYear year + yearLength year := by
  obtain ⟨past, rfl⟩ : ∃ past, year = past + 1 := ⟨year - 1, by omega⟩
  -- each of the three quotients steps exactly in the years that its divisor divides
  have hfour : (past + 1) % 4 = 0 ∧ (past + 1) / 4 = past / 4 + 1 ∨
      (past + 1) % 4 ≠ 0 ∧ (past + 1) / 4 = past / 4 := by omega
  have hcentury : (past + 1) % 100 = 0 ∧ (past + 1) / 100 = past / 100 + 1 ∨
      (past + 1) % 100 ≠ 0 ∧ (past + 1) / 100 = past / 100 := by omega
  have hcycle : (past + 1) % 400 = 0 ∧ (past + 1) / 400 = past / 400 + 1 ∨
      (past + 1) % 400 ≠ 0 ∧ (past + 1) / 400 = past / 400 := by omega
  have hnested : ((past + 1) % 400 = 0 → (past + 1) % 100 = 0) ∧
      ((past + 1) % 100 = 0 → (past + 1) % 4 = 0) ∧ past / 100 ≤ past / 4 := by omega
  simp only [daysBeforeYear, yearLength, isLeap_iff, Nat.add_sub_cancel]
  generalize (past + 1) / 4 = four at *
  generalize (past + 1) / 100 = century at *
  generalize (past + 1) / 400 = cycle at *
  generalize past / 4 = fourBefore at *
  generalize past / 100 = centuryBefore at *
  split_ifs <;> omega

theorem daysBeforeYear_mono : Monotone daysBeforeYear := by
  apply monotone_nat_of_le_succ
  intro year
  by_cases h : 1 ≤ year
  · rw [daysBeforeYear_succ h]
    exact Nat.le_add_right _ _
  · obtain rfl : year = 0 := by omega
    exact le_rfl

theorem length_monthLengths (year : Nat) : (monthLengths year).length = 12 := rfl

theorem sum_monthLengths (year : Nat) : (monthLengths year).sum = yearLength year := by
  unfold monthLengths yearLength
  split_ifs <;> rfl

theorem monthLength_eq_getElem {month : Nat} (h : month < (monthLengths year).length) :
    monthLength year (month + 1) = (monthLengths year)[month] := by
  simp [monthLength, List.getD_eq_getElem?_getD, List.getElem?_eq_getElem h]

theorem daysBeforeMonth_succ {month : Nat} (h : month < (monthLengths year).length) :
    daysBeforeMonth year (month + 2) =
      daysBeforeMonth year (month + 1) + monthLength year (month + 1) := by
  rw [monthLength_eq_getElem h]
  exact List.sum_take_succ (monthLengths year) month h

theorem monthLength_pos {month : Nat} (hone : 1 ≤ month) (hlast : month ≤ 12) :
    1 ≤ monthLength year month := by
  unfold monthLength monthLengths
  interval_cases month <;> simp
  split_ifs <;> omega

theorem monthLength_le (year month : Nat) : monthLength year month ≤ 31 := by
  unfold monthLength
  split_ifs with hmonth
  · exact Nat.zero_le 31
  · rw [List.getD_eq_getElem?_getD]
    cases hlength : (monthLengths year)[month - 1]? with
    | none => simp
    | some length =>
      have hmem := List.mem_of_getElem? hlength
      simp only [monthLengths, List.mem_cons, List.not_mem_nil, or_false] at hmem
      rw [Option.getD_some]
      split_ifs at hmem <;> omega

namespace Date

variable {d : Date} {n : Nat}

/-- The date names a day, in whatever year. -/
structure WellFormed (d : Date) : Prop where
  one_le_year : 1 ≤ d.year
  one_le_month : 1 ≤ d.month
  month_le : d.month ≤ 12
  one_le_day : 1 ≤ d.day
  day_le : d.day ≤ monthLength d.year d.month

theorem valid_iff : d.Valid ↔ d.WellFormed ∧ d.year ≤ lastYear := by
  constructor
  · rintro ⟨hyear, hlast, hmonth, hmonths, hday, hdays⟩
    exact ⟨⟨hyear, hmonth, hmonths, hday, hdays⟩, hlast⟩
  · rintro ⟨h, hlast⟩
    exact ⟨h.one_le_year, hlast, h.one_le_month, h.month_le, h.one_le_day, h.day_le⟩

/-! ### The day after -/

/-- The day after a date. -/
def next (d : Date) : Date :=
  if d.day < monthLength d.year d.month then ⟨d.year, d.month, d.day + 1⟩
  else if d.month < 12 then ⟨d.year, d.month + 1, 1⟩
  else ⟨d.year + 1, 1, 1⟩

def first : Date := ⟨1, 1, 1⟩

/-- The date a number of days after the first. -/
def after (n : Nat) : Date := next^[n] first

theorem after_succ (n : Nat) : after (n + 1) = (after n).next :=
  Function.iterate_succ_apply' next n first

theorem wellFormed_newYear (h : 1 ≤ year) : (⟨year, 1, 1⟩ : Date).WellFormed :=
  ⟨h, le_rfl, Nat.le_add_left 1 11, le_rfl, monthLength_pos le_rfl (Nat.le_add_left 1 11)⟩

theorem WellFormed.next (h : d.WellFormed) : d.next.WellFormed := by
  obtain ⟨hyear, hmonth, hlast, hday, hdays⟩ := h
  unfold Date.next
  split_ifs with hinside hmonths
  · exact ⟨hyear, hmonth, hlast, Nat.le_add_left 1 _, hinside⟩
  · exact ⟨hyear, Nat.le_add_left 1 _, hmonths, le_rfl,
      monthLength_pos (Nat.le_add_left 1 _) hmonths⟩
  · exact wellFormed_newYear (Nat.le_add_left 1 _)

theorem wellFormed_first : first.WellFormed := wellFormed_newYear le_rfl

theorem wellFormed_after (n : Nat) : (after n).WellFormed := by
  induction n with
  | zero => exact wellFormed_first
  | succ n ih =>
    rw [after_succ]
    exact ih.next

theorem WellFormed.exists_month (h : d.WellFormed) :
    ∃ month, d.month = month + 1 ∧ month < (monthLengths d.year).length := by
  have hfirst := h.one_le_month
  have hlast := h.month_le
  refine ⟨d.month - 1, by omega, ?_⟩
  rw [length_monthLengths]
  omega

theorem WellFormed.daysBeforeMonth_add (h : d.WellFormed) :
    daysBeforeMonth d.year (d.month + 1) =
      daysBeforeMonth d.year d.month + monthLength d.year d.month := by
  obtain ⟨month, hsucc, hmonth⟩ := h.exists_month
  rw [hsucc]
  exact daysBeforeMonth_succ hmonth

theorem daysBeforeMonth_last (year : Nat) :
    daysBeforeMonth year 12 + monthLength year 12 = yearLength year := by
  rw [← sum_monthLengths]
  unfold daysBeforeMonth monthLength monthLengths
  split_ifs <;> simp <;> omega

theorem ordinal_next (h : d.WellFormed) : d.next.ordinal = d.ordinal + 1 := by
  unfold Date.next ordinal
  split_ifs with hinside hmonths
  · rfl
  · have hend : d.day = monthLength d.year d.month := by have := h.day_le; omega
    have hmonth := h.daysBeforeMonth_add
    dsimp only
    omega
  · have hend : d.day = monthLength d.year d.month := by have := h.day_le; omega
    have hlast : d.month = 12 := by have := h.month_le; omega
    have hyear := daysBeforeYear_succ h.one_le_year
    have hmonth := daysBeforeMonth_last d.year
    have hnew : daysBeforeMonth (d.year + 1) 1 = 0 := rfl
    rw [hlast] at hend ⊢
    dsimp only
    omega

theorem ordinal_after (n : Nat) : (after n).ordinal = n + 1 := by
  induction n with
  | zero => rfl
  | succ n ih => rw [after_succ, ordinal_next (wellFormed_after n), ih]

/-! ### The date of a count -/

theorem daysBeforeYear_lt_ordinal (h : d.WellFormed) : daysBeforeYear d.year < d.ordinal := by
  have hday := h.one_le_day
  unfold ordinal
  omega

theorem daysBeforeMonth_add_le (h : d.WellFormed) :
    daysBeforeMonth d.year d.month + d.day ≤ yearLength d.year := by
  obtain ⟨month, hsucc, hmonth⟩ := h.exists_month
  have hday := h.day_le
  have htake : ((monthLengths d.year).take (month + 1)).sum ≤ (monthLengths d.year).sum :=
    (List.take_sublist _ _).sum_le_sum (by simp)
  rw [List.sum_take_succ _ _ hmonth, sum_monthLengths, ← monthLength_eq_getElem hmonth] at htake
  rw [hsucc] at hday ⊢
  change ((monthLengths d.year).take month).sum + d.day ≤ _
  omega

theorem ordinal_le_daysBeforeYear (h : d.WellFormed) :
    d.ordinal ≤ daysBeforeYear (d.year + 1) := by
  have hmonth := daysBeforeMonth_add_le h
  rw [daysBeforeYear_succ h.one_le_year]
  unfold ordinal
  omega

theorem daysBeforeMonth_mono (year : Nat) : Monotone (daysBeforeMonth year) := by
  intro month later h
  have htake : (monthLengths year).take (month - 1) =
      ((monthLengths year).take (later - 1)).take (month - 1) := by
    rw [List.take_take, min_eq_left (Nat.sub_le_sub_right h 1)]
  unfold daysBeforeMonth
  rw [htake]
  exact (List.take_sublist _ _).sum_le_sum (by simp)

theorem ordinal_lt_of_year_lt {e : Date} (hd : d.WellFormed) (he : e.WellFormed)
    (h : d.year < e.year) : d.ordinal < e.ordinal := by
  have hmono : daysBeforeYear (d.year + 1) ≤ daysBeforeYear e.year := daysBeforeYear_mono h
  have hend := ordinal_le_daysBeforeYear hd
  have hstart := daysBeforeYear_lt_ordinal he
  omega

theorem ordinal_lt_of_month_lt {e : Date} (hd : d.WellFormed) (he : e.WellFormed)
    (hyear : d.year = e.year) (h : d.month < e.month) : d.ordinal < e.ordinal := by
  have hmono : daysBeforeMonth d.year (d.month + 1) ≤ daysBeforeMonth d.year e.month :=
    daysBeforeMonth_mono d.year h
  have hmonth := hd.daysBeforeMonth_add
  have hend := hd.day_le
  have hstart := he.one_le_day
  unfold ordinal
  rw [← hyear]
  omega

/-- The year of a count lies between the counts of its first day and of the next one's. The mean
length of a year never gives a year too late, and at most one too early. -/
theorem yearOfOrdinal_eq (hyear : 1 ≤ year) (hlo : daysBeforeYear year < n)
    (hhi : n ≤ daysBeforeYear (year + 1)) : yearOfOrdinal n = year := by
  have hguess : (n - 1) * 400 / 146097 + 1 = year ∨ (n - 1) * 400 / 146097 + 1 + 1 = year := by
    unfold daysBeforeYear at hlo hhi
    dsimp only at hlo hhi
    omega
  unfold yearOfOrdinal
  rcases hguess with hguess | hguess
  · simp only [hguess]
    rw [if_neg (by omega), if_neg (by omega)]
  · have hmono : daysBeforeYear ((n - 1) * 400 / 146097 + 1) ≤ daysBeforeYear year :=
      daysBeforeYear_mono (by omega)
    simp only
    rw [if_neg (by omega), hguess, if_pos hlo]

theorem findMonth_sum_add {lengths : List Nat} {i : Nat} (hi : i < lengths.length) (month : Nat)
    {day : Nat} (hone : 1 ≤ day) (hday : day ≤ lengths[i]) :
    findMonth month lengths ((lengths.take i).sum + day) = (month + i, day) := by
  induction lengths generalizing i month with
  | nil => simp at hi
  | cons length rest ih =>
    unfold findMonth
    cases i with
    | zero =>
      have hfits : ((length :: rest).take 0).sum + day ≤ length := by simpa using hday
      rw [if_pos hfits]
      simp
    | succ i =>
      have hsum : ((length :: rest).take (i + 1)).sum + day =
          length + ((rest.take i).sum + day) := by
        simp [Nat.add_assoc]
      rw [hsum, if_neg (by omega), Nat.add_sub_cancel_left,
        ih (by simpa using hi) (month + 1) (by simpa using hday)]
      simp [Nat.add_comm, Nat.add_left_comm]

theorem ofOrdinal_ordinal (h : d.WellFormed) : ofOrdinal d.ordinal = d := by
  have hyear : yearOfOrdinal d.ordinal = d.year :=
    yearOfOrdinal_eq h.one_le_year (daysBeforeYear_lt_ordinal h) (ordinal_le_daysBeforeYear h)
  obtain ⟨month, hsucc, hmonth⟩ := h.exists_month
  have hday : d.day ≤ (monthLengths d.year)[month] := by
    rw [← monthLength_eq_getElem hmonth, ← hsucc]
    exact h.day_le
  have hcount : d.ordinal - daysBeforeYear d.year =
      ((monthLengths d.year).take month).sum + d.day := by
    have hbefore : daysBeforeMonth d.year d.month = ((monthLengths d.year).take month).sum := by
      rw [hsucc]
      rfl
    unfold ordinal
    omega
  unfold ofOrdinal
  simp only [hyear, hcount]
  rw [findMonth_sum_add hmonth 1 h.one_le_day hday, Nat.add_comm 1, ← hsucc]

theorem ofOrdinal_succ (n : Nat) : ofOrdinal (n + 1) = after n := by
  rw [← ordinal_after, ofOrdinal_ordinal (wellFormed_after n)]

/-- Every date of the calendar is reached from the first. -/
theorem WellFormed.eq_after (h : d.WellFormed) : ∃ n, d.ordinal = n + 1 ∧ d = after n := by
  have hpos := daysBeforeYear_lt_ordinal h
  refine ⟨d.ordinal - 1, by omega, ?_⟩
  rw [← ofOrdinal_succ, Nat.sub_add_cancel (by omega), ofOrdinal_ordinal h]

theorem after_injective : Function.Injective after := by
  intro m n h
  have hordinal := congrArg ordinal h
  rw [ordinal_after, ordinal_after] at hordinal
  omega

theorem year_after_eq_iff (hyear : 1 ≤ year) :
    (after n).year = year ↔ daysBeforeYear year ≤ n ∧ n < daysBeforeYear (year + 1) := by
  have hlo := daysBeforeYear_lt_ordinal (wellFormed_after n)
  have hhi := ordinal_le_daysBeforeYear (wellFormed_after n)
  rw [ordinal_after] at hlo hhi
  constructor
  · rintro rfl
    omega
  · rintro ⟨hfrom, hto⟩
    rw [← yearOfOrdinal_eq (wellFormed_after n).one_le_year hlo hhi]
    exact yearOfOrdinal_eq hyear (by omega) (by omega)

theorem year_after_le_iff : (after n).year ≤ lastYear ↔ n < lastOrdinal := by
  have hlo := daysBeforeYear_lt_ordinal (wellFormed_after n)
  have hhi := ordinal_le_daysBeforeYear (wellFormed_after n)
  rw [ordinal_after] at hlo hhi
  have hlast : daysBeforeYear (lastYear + 1) = lastOrdinal := rfl
  constructor
  · intro h
    have hmono : daysBeforeYear ((after n).year + 1) ≤ daysBeforeYear (lastYear + 1) :=
      daysBeforeYear_mono (by omega)
    omega
  · intro h
    by_contra hyear
    have hmono : daysBeforeYear (lastYear + 1) ≤ daysBeforeYear (after n).year :=
      daysBeforeYear_mono (by omega)
    omega

theorem after_daysBeforeYear (hyear : 1 ≤ year) : after (daysBeforeYear year) = ⟨year, 1, 1⟩ := by
  rw [← ofOrdinal_succ, ← ofOrdinal_ordinal (wellFormed_newYear hyear)]
  rfl

end Date

/-! ### Week dates -/

/-- The date is a day of an ISO week. A week starts on a Monday and belongs to the year of its
Thursday, which also gives its number: the first Thursday of a year is in week one. The calendar
starts on a Monday. -/
def IsoDay (year week day : Nat) (date : Date) : Prop :=
  ∃ n thursday newYear, date = Date.after n ∧ day = n % 7 + 1 ∧ thursday = n - n % 7 + 3 ∧
    (Date.after thursday).year = year ∧ Date.after newYear = ⟨year, 1, 1⟩ ∧
    week = (thursday - newYear) / 7 + 1

theorem weekday_eq (n : Int) : weekday n = (n - 1) % 7 := rfl

theorem hasLongWeekYear_iff (hyear : 1 ≤ year) :
    hasLongWeekYear year = true ↔ daysBeforeYear year % 7 = 3 ∨
      daysBeforeYear year % 7 = 2 ∧ yearLength year = 366 := by
  have hleap : isLeap year = true ↔ yearLength year = 366 := by
    unfold yearLength
    split_ifs with h <;> simp [h]
  unfold hasLongWeekYear firstOfYear
  simp only [if_neg (show ¬year = 0 by omega), weekday_eq, Bool.and_eq_true, Bool.or_eq_true,
    beq_iff_eq, bne_iff_ne, ne_eq, hleap]
  omega

theorem firstMonday_eq (hyear : 1 ≤ year) :
    firstMonday year = (daysBeforeYear year : Int) + 1 - (daysBeforeYear year % 7 : Nat) +
      if 3 < daysBeforeYear year % 7 then 7 else 0 := by
  unfold firstMonday firstOfYear
  simp only [if_neg (show ¬year = 0 by omega), weekday_eq]
  split_ifs <;> omega

theorem weekOrdinal_eq_some_iff {week day : Nat} {k : Int} (hyear : 1 ≤ year) :
    weekOrdinal year week day = some k ↔
      ∃ n : Nat, k = n + 1 ∧ IsoDay year week day (Date.after n) := by
  have hlength := daysBeforeYear_succ hyear
  have hmonday := firstMonday_eq hyear
  have hlong := hasLongWeekYear_iff hyear
  have hshort : yearLength year = 365 ∨ yearLength year = 366 := by
    unfold yearLength
    split_ifs <;> simp
  unfold weekOrdinal
  constructor
  · intro h
    split_ifs at h with hexists
    obtain rfl := Option.some.inj h
    obtain ⟨hweek, hlast, hday, hdays⟩ := hexists
    rw [hlong] at hlast
    -- weeks count from the Monday of week one, which is at most three days before New Year
    have hstart : ∃ monday : Nat, firstMonday year = monday + 1 ∧ monday % 7 = 0 ∧
        daysBeforeYear year ≤ monday + 3 ∧ monday + 3 < daysBeforeYear year + 7 := by
      refine ⟨(firstMonday year - 1).toNat, ?_⟩
      split_ifs at hmonday <;> omega
    obtain ⟨monday, hmonday', hmod, hlo, hhi⟩ := hstart
    refine ⟨monday + (week - 1) * 7 + (day - 1), by omega, _, monday + (week - 1) * 7 + 3,
      daysBeforeYear year, rfl, by omega, by omega, ?_, Date.after_daysBeforeYear hyear, by omega⟩
    rw [Date.year_after_eq_iff hyear]
    split_ifs at hmonday <;> omega
  · rintro ⟨n, rfl, m, thursday, newYear, hafter, hday, hthursday, hyearOf, hnewYear, hweek⟩
    obtain rfl := Date.after_injective hafter
    obtain rfl : newYear = daysBeforeYear year :=
      Date.after_injective (hnewYear.trans (Date.after_daysBeforeYear hyear).symm)
    obtain ⟨hfrom, hto⟩ := (Date.year_after_eq_iff hyear).mp hyearOf
    have hexists : 1 ≤ week ∧ (week ≤ 52 ∨ week = 53 ∧ hasLongWeekYear year = true) ∧ 1 ≤ day ∧
        day ≤ 7 := by
      rw [hlong]
      omega
    rw [if_pos hexists, hmonday]
    congr 1
    split_ifs <;> omega

end WorldQuery.Time
