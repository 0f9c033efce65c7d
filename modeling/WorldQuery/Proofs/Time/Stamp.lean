import WorldQuery.Proofs.Number.Numerals
import WorldQuery.Proofs.Text.Pieces
import WorldQuery.Proofs.Time.Written
import WorldQuery.Time.Stamp

/-!
# Two readers of timestamps

Creation stamps and timestamps are read by rules of their own. `StampText` says what a stamp with a
date looks like: it writes the same moment as a timestamp, except that its zone may be marked by a
small letter or a typographic minus, which no timestamp has. So what both readers accept is one
moment for them: `Stamp.readText_eq_of_readMoment`.
-/

namespace WorldQuery.Time

open Number Text Success

variable {text day time zone rest : List Char} {date : Date} {c : Clock} {m : Moment}

/-! ### The grammar of stamps -/

/-- A date as stamps have it: year, month and day with dashes. -/
inductive DayText : List Char → Date → Prop
  | intro {y m d : List Char} {date : Date} : Writes 4 y date.year → Writes 2 m date.month →
      Writes 2 d date.day → date.Valid → DayText (y ++ '-' :: (m ++ '-' :: d)) date

/-- A zone marked as no timestamp marks it: by a small letter, or by a typographic minus. -/
inductive ForeignZone : List Char → Prop
  | utc : ForeignZone ['z']
  | west {time : List Char} {c : Clock} : ClockText time c → ForeignZone ('\u2212' :: time)

/-- A stamp with a date, and its moment. -/
inductive StampText : List Char → Moment → Prop
  | date {day : List Char} {date : Date} : DayText day date →
      StampText day ⟨date, Clock.midnight, none⟩
  | unzoned {day time : List Char} {separator : Char} {date : Date} {c : Clock} :
      DayText day date → ClockText time c → c.Valid →
      StampText (day ++ separator :: time) ⟨date, c, none⟩
  | zoned {day time zone : List Char} {separator : Char} {date : Date} {c : Clock} {offset : Int} :
      DayText day date → ClockText time c → c.Valid → ZoneText zone offset →
      heardOffset offset = offset → -microsPerDay < offset → offset < microsPerDay →
      StampText (day ++ separator :: (time ++ zone)) ⟨date, c, some offset⟩
  | foreign {day time zone : List Char} {separator : Char} {date : Date} {c : Clock}
      {offset : Option Int} : DayText day date → ClockText time c → ForeignZone zone →
      StampText (day ++ separator :: (time ++ zone)) ⟨date, c, offset⟩

/-! ### Stamps follow the grammar -/

namespace Stamp

theorem readDay_sound (h : readDay text = some (date, rest)) :
    ∃ day, text = day ++ rest ∧ DayText day date := by
  unfold readDay at h
  simp only [Option.bind_eq_bind, Option.bind_eq_some_iff, Prod.exists, dash_eq_some_iff,
    fixedDigits_eq_some_iff] at h
  obtain ⟨year, -, ⟨y, rfl, hy⟩, -, rfl, month, -, ⟨m, rfl, hm⟩, -, rfl, day, left, ⟨d, rfl, hd⟩,
    h⟩ := h
  split_ifs at h with hvalid
  simp only [Option.some.injEq, Prod.mk.injEq] at h
  obtain ⟨rfl, rfl⟩ := h
  exact ⟨_, by simp [dashText], .intro hy hm hd hvalid⟩

theorem readFraction_sound {micro : Nat} (h : readFraction text = some (micro, rest)) :
    ∃ digits width value, text = digits ++ rest ∧ Writes width digits value ∧ 1 ≤ width ∧
      micro = value * 10 ^ 6 / 10 ^ width := by
  unfold readFraction at h
  have htext := List.takeWhile_append_dropWhile (p := fun c => (asciiDigit c).isSome) (l := text)
  have hdigits : ∀ ch ∈ text.takeWhile fun c => (asciiDigit c).isSome,
      (asciiDigit ch).isSome = true := fun ch => List.mem_takeWhile_imp
  generalize (text.takeWhile fun c => (asciiDigit c).isSome) = digits at h htext hdigits
  simp only [Option.bind_eq_bind, Option.bind_eq_some_iff, Prod.exists] at h
  obtain ⟨value, left, hread, h⟩ := h
  split_ifs at h with hlength
  obtain ⟨rfl, rfl⟩ := Prod.mk.inj (Option.some.inj h)
  obtain ⟨front, hfront, hvalue⟩ := fixedDigits_eq_some_iff.mp hread
  have hleft : ∀ ch ∈ left, (asciiDigit ch).isSome = true := fun ch hch =>
    hdigits ch (hfront ▸ List.mem_append_right _ hch)
  obtain ⟨value', hvalue'⟩ := writes_of_forall_digit hleft
  have hsum := congrArg List.length hfront
  rw [List.length_append, hvalue.length_eq] at hsum
  have hkept : min digits.length 6 = 6 ∨ min digits.length 6 < 6 ∧ left.length = 0 := by omega
  refine ⟨digits, _, _, ?_, hfront ▸ hvalue.append hvalue', by omega,
    (micros_cut hkept hvalue'.value_lt).symm⟩
  rw [← htext, List.drop_left]

theorem readSeconds_sound {second micro : Nat}
    (h : readSeconds text = some (second, micro, rest)) :
    ∃ s f, text = s ++ (f ++ rest) ∧ Writes 2 s second ∧ FractionText fractionMarks f micro := by
  unfold readSeconds at h
  simp only [Option.bind_eq_bind, Option.bind_eq_some_iff, Prod.exists] at h
  obtain ⟨second, left, hread, h⟩ := h
  obtain ⟨s, rfl, hs⟩ := fixedDigits_eq_some_iff.mp hread
  split at h
  · next mark more =>
    split_ifs at h with hmark
    · simp only [Option.bind_eq_some_iff, Prod.exists, Option.some.injEq, Prod.mk.injEq] at h
      obtain ⟨micro, left, hfraction, rfl, rfl, rfl⟩ := h
      obtain ⟨digits, width, value, rfl, hdigits, hwidth, rfl⟩ := readFraction_sound hfraction
      have hmarks : [mark] ∈ fractionMarks := by
        simpa [fractionMarks] using hmark
      exact ⟨s, [mark] ++ digits, by simp, hs,
        .some hmarks hdigits hwidth (by rw [List.length_singleton]; omega)⟩
    · simp only [Option.some.injEq, Prod.mk.injEq] at h
      obtain ⟨rfl, rfl, rfl⟩ := h
      exact ⟨s, [], rfl, hs, .none⟩
  · simp only [Option.some.injEq, Prod.mk.injEq] at h
    obtain ⟨rfl, rfl, rfl⟩ := h
    exact ⟨s, [], rfl, hs, .none⟩

theorem readClock_sound (h : readClock text = some (c, rest)) :
    ∃ front, text = front ++ rest ∧ ClockText front c ∧ c.Valid := by
  unfold readClock at h
  simp only [Option.bind_eq_bind, Option.bind_eq_some_iff, Prod.exists] at h
  obtain ⟨hour, left, hread, h⟩ := h
  obtain ⟨hs, rfl, hhour⟩ := fixedDigits_eq_some_iff.mp hread
  split at h
  · next left =>
    simp only [Option.bind_eq_some_iff, Prod.exists] at h
    obtain ⟨minute, left, hread, h⟩ := h
    obtain ⟨ms, rfl, hminute⟩ := fixedDigits_eq_some_iff.mp hread
    split at h
    · next more =>
      simp only [Option.bind_eq_some_iff, Prod.exists] at h
      obtain ⟨second, micro, left, hseconds, h⟩ := h
      split_ifs at h with hrange
      simp only [Option.some.injEq, Prod.mk.injEq] at h
      obtain ⟨rfl, rfl⟩ := h
      obtain ⟨ss, f, rfl, hsecond, hfraction⟩ := readSeconds_sound hseconds
      exact ⟨_, by simp [colonText], .seconds true hhour hminute hsecond hfraction.weaken,
        hrange.1, hrange.2.1, hrange.2.2, hfraction.micro_lt⟩
    · rw [Option.bind_some] at h
      split_ifs at h with hrange
      simp only [Option.some.injEq, Prod.mk.injEq] at h
      obtain ⟨rfl, rfl⟩ := h
      exact ⟨_, by simp [colonText], .minutes true hhour hminute .none,
        hrange.1, hrange.2.1, hrange.2.2, Nat.zero_lt_succ _⟩
  · cases h

theorem isWest_iff {c : Char} : isWest c = true ↔ c = '-' ∨ c = '\u2212' := by
  simp [isWest]

theorem heardOffset_minutes {hour minute : Nat} (hhour : hour ≤ 23) (hminute : minute ≤ 59)
    {n : Int} (hn : n.natAbs = (⟨hour, minute, 0, 0⟩ : Clock).micros) :
    heardOffset n = n ∧ -microsPerDay < n ∧ n < microsPerDay := by
  simp only [Clock.micros] at hn
  unfold heardOffset microsPerDay
  refine ⟨?_, by omega, by omega⟩
  split_ifs <;> omega

theorem readZone_signed {sign : Char} {zone : Option Int} (hutc : ¬(sign = 'Z' ∨ sign = 'z'))
    (h : readZone (sign :: text) = some zone) :
    (sign = '+' ∨ isWest sign = true) ∧ ∃ hour minute, ClockText text ⟨hour, minute, 0, 0⟩ ∧
      hour ≤ 23 ∧ minute ≤ 59 ∧ zone = some (if isWest sign then
        -((⟨hour, minute, 0, 0⟩ : Clock).micros : Int)
        else (⟨hour, minute, 0, 0⟩ : Clock).micros) := by
  rw [readZone, if_neg hutc] at h
  by_cases hsign : sign = '+' ∨ isWest sign = true
  · rw [if_pos hsign] at h
    simp only [Option.bind_eq_bind, Option.bind_eq_some_iff, Prod.exists] at h
    obtain ⟨hour, left, hhour, minute, left', hminute, h⟩ := h
    by_cases hrange : left'.isEmpty = true ∧ hour ≤ 23 ∧ minute ≤ 59
    · rw [if_pos hrange] at h
      obtain ⟨hempty, hhours, hminutes⟩ := hrange
      have hmicros : (⟨hour, minute, 0, 0⟩ : Clock).micros = (hour * 60 + minute) * 60000000 := by
        simp only [Clock.micros]
        omega
      refine ⟨hsign, hour, minute, ?_, hhours, hminutes, hmicros ▸ (Option.some.inj h).symm⟩
      obtain ⟨hs, rfl, hhs⟩ := fixedDigits_eq_some_iff.mp hhour
      obtain ⟨ms, htext, hms⟩ := fixedDigits_eq_some_iff.mp hminute
      rw [List.isEmpty_iff.mp hempty] at htext
      split at htext
      · rw [htext]
        exact .minutes true hhs hms .none
      · rw [htext]
        exact .minutes false hhs hms .none
    · rw [if_neg hrange] at h
      cases h
  · rw [if_neg hsign] at h
    cases h

theorem readZone_sound {zone : Option Int} (h : readZone text = some zone) :
    text = [] ∧ zone = none ∨ ForeignZone text ∨
      ∃ offset, zone = some offset ∧ ZoneText text offset ∧ heardOffset offset = offset ∧
        -microsPerDay < offset ∧ offset < microsPerDay := by
  cases text with
  | nil => exact Or.inl ⟨rfl, (Option.some.inj h).symm⟩
  | cons sign rest =>
    by_cases hutc : sign = 'Z' ∨ sign = 'z'
    · rw [readZone, if_pos hutc] at h
      split_ifs at h with hempty
      obtain rfl := List.isEmpty_iff.mp hempty
      obtain rfl := Option.some.inj h
      rcases hutc with rfl | rfl
      · exact Or.inr (Or.inr ⟨0, rfl, .utc, rfl, by decide, by decide⟩)
      · exact Or.inr (Or.inl .utc)
    · obtain ⟨hsign, hour, minute, hclock, hhour, hminute, rfl⟩ := readZone_signed hutc h
      by_cases hwest : isWest sign = true
      · rw [if_pos hwest]
        rcases isWest_iff.mp hwest with rfl | rfl
        · exact Or.inr (Or.inr ⟨_, rfl, .west hclock,
            heardOffset_minutes hhour hminute (by simp)⟩)
        · exact Or.inr (Or.inl (.west hclock))
      · rw [if_neg hwest]
        obtain rfl := hsign.resolve_right hwest
        exact Or.inr (Or.inr ⟨_, rfl, .east hclock, heardOffset_minutes hhour hminute (by simp)⟩)

theorem readWritten_sound (h : readWritten text = some m) : StampText text m := by
  unfold readWritten at h
  simp only [Option.bind_eq_bind, Option.bind_eq_some_iff, Prod.exists] at h
  obtain ⟨date, rest, hread, h⟩ := h
  obtain ⟨day, rfl, hday⟩ := readDay_sound hread
  split at h
  · obtain rfl := Option.some.inj h
    rw [List.append_nil]
    exact .date hday
  · next separator rest =>
    split_ifs at h with hseparator
    simp only [Option.bind_eq_some_iff, Prod.exists] at h
    obtain ⟨clock, rest, hclock, zone, hzone, h⟩ := h
    obtain rfl := Option.some.inj h
    obtain ⟨time, rfl, htime, hvalid⟩ := readClock_sound hclock
    rcases readZone_sound hzone with ⟨rfl, rfl⟩ | hforeign | ⟨offset, rfl, htext, hheard, hlo, hhi⟩
    · rw [List.append_nil]
      exact .unzoned hday htime hvalid
    · exact .foreign hday htime hforeign
    · exact .zoned hday htime hvalid htext hheard hlo hhi

end Stamp

/-! ### Stamps as timestamps -/

theorem DayText.dateText (h : DayText day date) : DateText day date := by
  obtain ⟨hy, hm, hd, hvalid⟩ := h
  exact .calendar true hy hm hd (Date.valid_iff.mp hvalid).1

theorem DayText.valid (h : DayText day date) : date.Valid := by
  obtain ⟨-, -, -, hvalid⟩ := h
  exact hvalid

theorem DayText.forall_mem {P : Char → Prop} (h : DayText day date)
    (hdigit : ∀ d < 10, P (digitChar d)) (hdash : P '-') : ∀ ch ∈ day, P ch := by
  obtain ⟨hy, hm, hd, -⟩ := h
  simp only [List.forall_mem_append, List.forall_mem_cons]
  exact ⟨hy.forall_mem hdigit, hdash, hm.forall_mem hdigit, hdash, hd.forall_mem hdigit⟩

theorem DayText.separates (h : DayText day date) (separator : Char) : Separates day separator := by
  have hweek : ∀ ch ∈ day, ch ≠ 'W' := h.forall_mem (by decide) (by decide)
  exact fun hmem => absurd rfl (hweek 'W' hmem)

theorem ForeignZone.exists_cons (h : ForeignZone zone) :
    ∃ sign rest, zone = sign :: rest ∧ (sign = 'z' ∨ sign = '\u2212') := by
  cases h with
  | utc => exact ⟨'z', [], rfl, Or.inl rfl⟩
  | west => exact ⟨'\u2212', _, rfl, Or.inr rfl⟩

theorem ForeignZone.forall_mem {P : Char → Prop} (h : ForeignZone zone)
    (hclock : ∀ {time : List Char} {c : Clock}, ClockText time c → ∀ ch ∈ time, P ch)
    (hutc : P 'z') (hwest : P '\u2212') : ∀ ch ∈ zone, P ch := by
  cases h with
  | utc => simpa using hutc
  | west htime => exact List.forall_mem_cons.mpr ⟨hwest, hclock htime⟩

/-- Without a mark of a zone and without a null character all of a time is a clock reading. -/
theorem clockText_of_readTime {zone : Option Int} (h : readTime text = some (c, zone))
    (hplain : ∀ ch ∈ text, isZoneMark ch = false ∧ ch ≠ '\x00') : ClockText text c := by
  obtain ⟨passed, offset, htime, -⟩ := readTime_sound h
  cases htime with
  | unzoned hclock hended =>
    cases passed with
    | nil => rwa [List.append_nil]
    | cons ch more => exact absurd (hended ch rfl) (hplain ch (by simp)).2
  | zoned _ _ hzone =>
    obtain ⟨sign, rest, rfl, hsign⟩ := hzone.exists_mark
    have hnone := (hplain sign (by simp)).1
    rw [hsign] at hnone
    cases hnone

theorem readTime_foreign (htime : ClockText time c) (hzone : ForeignZone zone) :
    readTime (time ++ zone) = none := by
  have hclock {time : List Char} {c : Clock} (h : ClockText time c) :
      ∀ ch ∈ time, isZoneMark ch = false ∧ ch ≠ '\x00' :=
    h.forall_mem (by decide) (by decide) (by decide) (by decide)
  have hplain : ∀ ch ∈ time ++ zone, isZoneMark ch = false ∧ ch ≠ '\x00' :=
    List.forall_mem_append.mpr ⟨hclock htime, hzone.forall_mem hclock (by decide) (by decide)⟩
  cases hread : readTime (time ++ zone) with
  | none => rfl
  | some reading =>
    have htime := clockText_of_readTime hread hplain
    have hall : ∀ ch ∈ time ++ zone, ch ≠ 'z' ∧ ch ≠ '\u2212' :=
      htime.forall_mem (by decide) (by decide) (by decide) (by decide)
    obtain ⟨sign, rest, rfl, hsign⟩ := hzone.exists_cons
    obtain ⟨hutc, hwest⟩ := hall sign (by simp)
    exact absurd hsign (by simp [hutc, hwest])

theorem readMoment_of_readTime_eq_none {separator : Char} (hday : DayText day date)
    (h : readTime time = none) :
    readMoment (day ++ separator :: time) =
      .error (.malformed (String.ofList (day ++ separator :: time))) := by
  have hwidth := dateWidth_of_dateText (separator :: time) hday.dateText fun ch _ =>
    hday.separates ch
  have hfields : readFields (day ++ separator :: time) = none := by
    simp [readFields, hwidth, h]
  rw [readMoment, hfields]

theorem Clock.midnight_valid : Clock.midnight.Valid := ⟨by decide, by decide, by decide, by decide⟩

theorem StampText.eq_of_readMoment (h : StampText text m) {m' : Moment}
    (hread : readMoment text = .ok m') : m' = m := by
  have hended : Ended [] := by simp [Ended]
  have hproper {offset : Option Int} (hproper : Proper text m.date m.clock offset)
      (hoffset : m.offset = offset.map heardOffset) (hvalid : m.Valid) : m' = m := by
    obtain ⟨date, c, zone⟩ := m
    dsimp only at hproper hoffset
    subst hoffset
    exact Except.ok.inj (hread.symm.trans (readMoment_of_proper hproper hvalid))
  cases h with
  | date hday =>
    exact hproper (.date hday.dateText) rfl ⟨hday.valid, Clock.midnight_valid, by simp⟩
  | unzoned hday hclock hvalid =>
    have htime := TimeText.unzoned hclock hended (by simp)
    rw [List.append_nil] at htime
    exact hproper (.dateTime hday.dateText (hday.separates _) htime) rfl
      ⟨hday.valid, hvalid, by simp⟩
  | zoned hday hclock hvalid hzone hheard hlo hhi =>
    have hbetween : ∀ ch ∈ ([] : List Char), isZoneMark ch = false := by simp
    have htime := TimeText.zoned hclock hbetween hzone hended
    rw [List.append_nil, List.nil_append, List.append_nil] at htime
    refine hproper (.dateTime hday.dateText (hday.separates _) htime) ?_
      ⟨hday.valid, hvalid, ?_⟩
    · rw [Option.map_some, hheard]
    · intro micros hmicros
      obtain rfl := Option.some.inj hmicros
      exact ⟨hlo, hhi⟩
  | foreign hday hclock hzone =>
    rw [readMoment_of_readTime_eq_none hday (readTime_foreign hclock hzone)] at hread
    cases hread

/-! ### The ends of stamps -/

theorem ClockText.ne_nil (h : ClockText time c) : time ≠ [] := by
  rintro rfl
  cases readClock_of_clockText h

theorem DayText.ne_nil (h : DayText day date) : day ≠ [] := by
  cases h
  simp

theorem trimmed_of_ends {front back : List Char} (between : List Char)
    (hfront : front ≠ [] ∧ ∀ ch ∈ front, isBlank ch = false)
    (hback : back ≠ [] ∧ ∀ ch ∈ back, isBlank ch = false) :
    Trimmed (front ++ (between ++ back)) := by
  obtain ⟨first, more, rfl⟩ := List.exists_cons_of_ne_nil hfront.1
  constructor
  · intro ch hch
    exact hfront.2 ch (List.mem_of_mem_head? hch)
  · intro ch hch
    rw [← List.append_assoc, List.getLast?_append_of_ne_nil _ hback.1] at hch
    exact hback.2 ch (List.mem_of_mem_getLast? hch)

theorem StampText.trimmed (h : StampText text m) : Trimmed text := by
  have hclock {time : List Char} {c : Clock} (h : ClockText time c) :
      ∀ ch ∈ time, isBlank ch = false :=
    h.forall_mem (by decide) (by decide) (by decide) (by decide)
  have hday {day : List Char} {date : Date} (h : DayText day date) :
      day ≠ [] ∧ ∀ ch ∈ day, isBlank ch = false :=
    ⟨h.ne_nil, h.forall_mem (by decide) (by decide)⟩
  have hzoned {time zone : List Char} {c : Clock} (htime : ClockText time c)
      (hzone : ∀ ch ∈ zone, isBlank ch = false) :
      time ++ zone ≠ [] ∧ ∀ ch ∈ time ++ zone, isBlank ch = false :=
    ⟨by simp [htime.ne_nil], List.forall_mem_append.mpr ⟨hclock htime, hzone⟩⟩
  cases h with
  | date h => exact .of_forall_not (hday h).2
  | unzoned h htime => exact trimmed_of_ends [_] (hday h) ⟨htime.ne_nil, hclock htime⟩
  | zoned h htime _ hzone =>
    refine trimmed_of_ends [_] (hday h) (hzoned htime ?_)
    cases hzone with
    | utc => exact List.forall_mem_singleton.mpr rfl
    | east hoffset | west hoffset => exact List.forall_mem_cons.mpr ⟨by decide, hclock hoffset⟩
  | foreign h htime hzone =>
    exact trimmed_of_ends [_] (hday h)
      (hzoned htime (hzone.forall_mem hclock (by decide) (by decide)))

/-! ### Texts that begin with a date -/

/-- A text that begins with a date as stamps have it, which need not exist. -/
def BeginsWithDay (text : List Char) : Prop :=
  ∃ y m d rest year month day, text = y ++ '-' :: (m ++ '-' :: (d ++ rest)) ∧
    Writes 4 y year ∧ Writes 2 m month ∧ Writes 2 d day

theorem Stamp.readCounted_of_beginsWithDay (h : BeginsWithDay text) :
    Stamp.readCounted text = none := by
  obtain ⟨y, m, d, rest, year, month, day, rfl, hy, -, -⟩ := h
  obtain ⟨digit, more, hdigit, rfl⟩ := hy.exists_cons
  have hplain : ∀ d < 10, digitChar d ≠ '-' ∧ digitChar d ≠ '+' := by decide
  obtain ⟨hminus, hplus⟩ := hplain digit hdigit
  unfold Stamp.readCounted
  rw [List.cons_append, splitSign_cons hminus hplus, ← List.cons_append]
  dsimp only [splitDigits]
  rw [List.dropWhile_append_of_pos fun ch => hy.isSome_digit]
  have hdash : (asciiDigit '-').isSome = false := rfl
  rw [List.dropWhile_cons, hdash, if_neg Bool.false_ne_true]
  split_ifs <;> rfl

theorem Stamp.readText_eq_of_readMoment (hday : BeginsWithDay text)
    (hstamp : Stamp.readText text = some m) {m' : Moment}
    (hread : readMoment (trim text) = .ok m') : m' = m := by
  unfold Stamp.readText at hstamp
  split at hstamp
  · next written hwritten =>
    obtain rfl := Option.some.inj hstamp
    have htext := readWritten_sound hwritten
    rw [htext.trimmed.trim_eq] at hread
    exact htext.eq_of_readMoment hread
  · rw [Stamp.readCounted_of_beginsWithDay hday] at hstamp
    cases hstamp

end WorldQuery.Time
