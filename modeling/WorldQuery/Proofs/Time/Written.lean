import WorldQuery.Proofs.Success
import WorldQuery.Proofs.Time.Clock
import WorldQuery.Proofs.Time.Days

/-!
# How timestamps are written

The relations of this module say which texts write a zone, a time and a timestamp, without saying
how they are read. A text is read as what it writes, `readMoment_sound`, and every text of these
forms is read, `readMoment_of_proper`. Two things are read otherwise than they are written:
characters between a clock reading and its zone are passed over, and an offset of less than a second
counts as none.
-/

namespace WorldQuery.Time

open Number Text Success

variable {text left : List Char} {c : Clock} {micro : Nat}

/-! ### Zones -/

/-- A zone: the letter of UTC, or a sign and the offset. -/
inductive ZoneText : List Char → Int → Prop
  | utc : ZoneText ['Z'] 0
  | east {text : List Char} {c : Clock} : ClockText text c → ZoneText ('+' :: text) c.micros
  | west {text : List Char} {c : Clock} : ClockText text c → ZoneText ('-' :: text) (-c.micros)

/-- An offset as it is read: one of less than a second counts as none. -/
def heardOffset (micros : Int) : Int := if micros.natAbs < 1000000 then 0 else micros

theorem ended_of_all (h : left.head?.all (· == '\x00') = true) : Ended left := by
  intro c hc
  rw [Option.mem_def] at hc
  simpa [hc] using h

theorem isZoneMark_iff {c : Char} : isZoneMark c = true ↔ c = '+' ∨ c = '-' ∨ c = 'Z' := by
  simp [isZoneMark, or_assoc]

theorem readZone_utc (rest : List Char) :
    readZone ('Z' :: rest) = if rest.head?.all (· == '\x00') then some 0 else none := rfl

theorem readZone_sign {sign : Char} (hsign : sign ≠ 'Z') (rest : List Char) :
    readZone (sign :: rest) =
      match readClock rest with
      | some (c, false) =>
        if c.hour = 0 ∧ c.minute = 0 ∧ c.second = 0 then some 0
        else some (if sign = '-' then -(c.micros : Int) else c.micros)
      | _ => none := by
  unfold readZone
  split
  · next heq => exact absurd (List.cons.inj heq).1 hsign
  · next heq =>
    obtain ⟨rfl, rfl⟩ := List.cons.inj heq
    rfl
  · next heq => cases heq

theorem readZone_sound {sign : Char} {micros : Int} (hsign : isZoneMark sign = true)
    (h : readZone (sign :: text) = some micros) :
    ∃ zone left offset, sign :: text = zone ++ left ∧ ZoneText zone offset ∧ Ended left ∧
      micros = heardOffset offset := by
  by_cases hutc : sign = 'Z'
  · subst hutc
    rw [readZone_utc] at h
    split_ifs at h with hended
    obtain rfl := Option.some.inj h
    exact ⟨['Z'], text, 0, rfl, .utc, ended_of_all hended, rfl⟩
  · rw [readZone_sign hutc] at h
    split at h
    · next c hread =>
      obtain ⟨front, left, rfl, hclock, hended⟩ := readClock_sound hread
      have hmicros := hclock.micros_lt_iff
      rcases isZoneMark_iff.mp hsign with rfl | rfl | rfl
      · refine ⟨'+' :: front, left, _, rfl, .east hclock, hended rfl, ?_⟩
        rw [heardOffset, Int.natAbs_natCast]
        split_ifs at h ⊢ <;> simp_all
      · refine ⟨'-' :: front, left, _, rfl, .west hclock, hended rfl, ?_⟩
        rw [heardOffset, Int.natAbs_neg, Int.natAbs_natCast]
        split_ifs at h ⊢ <;> simp_all
      · exact absurd rfl hutc
    · cases h

theorem readZone_of_zoneText {offset : Int} (h : ZoneText text offset) :
    readZone text = some (heardOffset offset) := by
  cases h with
  | utc => rfl
  | @east text c hclock =>
    rw [readZone_sign (by decide), readClock_of_clockText hclock, heardOffset,
      Int.natAbs_natCast]
    simp only [hclock.micros_lt_iff]
    split_ifs <;> simp_all
  | @west text c hclock =>
    rw [readZone_sign (by decide), readClock_of_clockText hclock, heardOffset, Int.natAbs_neg,
      Int.natAbs_natCast]
    simp only [hclock.micros_lt_iff]
    split_ifs <;> simp_all

/-! ### Times -/

/-- A clock reading, with a zone or without. The second text holds the characters that do not count:
those between the reading and its zone, and those after a null character. -/
inductive TimeText : List Char → List Char → Clock → Option Int → Prop
  | unzoned {text left : List Char} {c : Clock} : ClockText text c → Ended left →
      (∀ ch ∈ left, isZoneMark ch = false) → TimeText (text ++ left) left c none
  | zoned {text between zone left : List Char} {c : Clock} {offset : Int} : ClockText text c →
      (∀ ch ∈ between, isZoneMark ch = false) → ZoneText zone offset → Ended left →
      TimeText (text ++ (between ++ (zone ++ left))) (between ++ left) c (some offset)

theorem ClockText.not_zoneMark (h : ClockText text c) : ∀ ch ∈ text, isZoneMark ch = false :=
  h.forall_mem (by decide) (by decide) (by decide) (by decide)

theorem ZoneText.exists_mark {offset : Int} (h : ZoneText text offset) :
    ∃ sign rest, text = sign :: rest ∧ isZoneMark sign = true := by
  cases h with
  | utc => exact ⟨'Z', [], rfl, rfl⟩
  | east => exact ⟨'+', _, rfl, rfl⟩
  | west => exact ⟨'-', _, rfl, rfl⟩

theorem readTime_sound {zone : Option Int} (h : readTime text = some (c, zone)) :
    ∃ passed offset, TimeText text passed c offset ∧ zone = offset.map heardOffset := by
  unfold readTime at h
  simp only [Option.bind_eq_bind, Option.bind_eq_some_iff, Prod.exists] at h
  obtain ⟨clock, spare, hread, h⟩ := h
  obtain ⟨front, between, htake, hclock, hended⟩ := readClock_sound hread
  have hbefore : ∀ ch ∈ front ++ between, isZoneMark ch = false := by
    intro ch hch
    rw [← htake] at hch
    simpa using List.mem_takeWhile_imp hch
  have hbetween := (List.forall_mem_append.mp hbefore).2
  have htext := List.takeWhile_append_dropWhile (p := (!isZoneMark ·)) (l := text)
  rw [htake] at htext
  split at h
  · next hdrop =>
    split_ifs at h with hspare
    simp only [Option.some.injEq, Prod.mk.injEq] at h
    obtain ⟨rfl, rfl⟩ := h
    rw [hdrop, List.append_nil] at htext
    refine ⟨between, none, ?_, rfl⟩
    rw [← htext]
    exact .unzoned hclock (hended (by simpa using hspare)) hbetween
  · next hdrop =>
    simp only [Option.bind_eq_some_iff, Option.some.injEq, Prod.mk.injEq] at h
    obtain ⟨micros, hread, rfl, rfl⟩ := h
    obtain ⟨sign, rest, hsign⟩ := List.exists_cons_of_ne_nil hdrop
    have hmark : isZoneMark sign = true := by
      have hhead := List.head?_dropWhile_not (!isZoneMark ·) text
      rw [hsign] at hhead
      simpa using hhead
    rw [hsign] at hread htext
    obtain ⟨zone, left, offset, heq, hzone, hended, rfl⟩ := readZone_sound hmark hread
    refine ⟨between ++ left, some offset, ?_, rfl⟩
    rw [← htext, heq, List.append_assoc]
    exact .zoned hclock hbetween hzone hended

theorem ClockText.before_zone (h : ClockText text c) : ∀ ch ∈ text, (!isZoneMark ch) = true := by
  intro ch hch
  rw [h.not_zoneMark ch hch]
  rfl

theorem readTime_of_timeText {offset : Option Int} (h : TimeText text [] c offset) :
    readTime text = some (c, offset.map heardOffset) := by
  generalize hpassed : ([] : List Char) = passed at h
  cases h with
  | @unzoned text left c hclock hended hleft =>
    subst hpassed
    have htake := List.takeWhile_eq_self_iff.mpr hclock.before_zone
    have hdrop := List.dropWhile_eq_nil_iff.mpr hclock.before_zone
    simp only [readTime, List.append_nil, htake, hdrop, readClock_of_clockText hclock,
      Option.bind_eq_bind, Option.bind_some, Option.map_none]
    rfl
  | @zoned text between zone left c offset hclock hbetween hzone hended =>
    obtain ⟨rfl, rfl⟩ := List.append_eq_nil_iff.mp hpassed.symm
    obtain ⟨sign, rest, rfl, hsign⟩ := hzone.exists_mark
    have htake : (text ++ sign :: rest).takeWhile (!isZoneMark ·) = text := by
      rw [List.takeWhile_append_of_pos hclock.before_zone]
      simp [hsign]
    have hdrop : (text ++ sign :: rest).dropWhile (!isZoneMark ·) = sign :: rest := by
      rw [List.dropWhile_append_of_pos hclock.before_zone]
      simp [hsign]
    simp only [readTime, List.nil_append, List.append_nil, htake, hdrop,
      readClock_of_clockText hclock, readZone_of_zoneText hzone, Option.bind_eq_bind,
      Option.bind_some, Option.map_some]

/-! ### Timestamps -/

/-- A date, or a date and a time with any one character between them. The second text holds the
characters that do not count. -/
inductive Written : List Char → List Char → Date → Clock → Option Int → Prop
  | date {day : List Char} {date : Date} : DateText day date →
      Written day [] date Clock.midnight none
  | dateTime {day time passed : List Char} {date : Date} {c : Clock} {offset : Option Int}
      (separator : Char) : DateText day date → TimeText time passed c offset →
      Written (day ++ separator :: time) passed date c offset

/-- A text that writes a timestamp and nothing else. The separator is not taken for a part of the
date. -/
inductive Proper : List Char → Date → Clock → Option Int → Prop
  | date {day : List Char} {date : Date} : DateText day date →
      Proper day date Clock.midnight none
  | dateTime {day time : List Char} {separator : Char} {date : Date} {c : Clock}
      {offset : Option Int} : DateText day date → Separates day separator →
      TimeText time [] c offset → Proper (day ++ separator :: time) date c offset

structure Clock.Valid (c : Clock) : Prop where
  hour_le : c.hour ≤ 23
  minute_le : c.minute ≤ 59
  second_le : c.second ≤ 59
  micro_lt : c.micro < 1000000

/-- A moment that exists: a date of the calendar, a reading of a clock and an offset of less than a
day. -/
structure Moment.Valid (m : Moment) : Prop where
  date : m.date.Valid
  clock : m.clock.Valid
  offset : ∀ micros ∈ m.offset, -microsPerDay < micros ∧ micros < microsPerDay

theorem Clock.check_eq_ok_iff {c' : Clock} :
    c.check = .ok c' ↔ c' = c ∧ c.hour ≤ 23 ∧ c.minute ≤ 59 ∧ c.second ≤ 59 := by
  unfold Clock.check
  split_ifs
  · refine iff_of_false nofun ?_
    omega
  · refine iff_of_false nofun ?_
    omega
  · refine iff_of_false nofun ?_
    omega
  · rw [Except.ok.injEq, eq_comm, iff_self_and]
    omega

theorem readFields_sound {fields : DateFields} {zone : Option Int} {date : Date}
    (h : readFields text = some (fields, c, zone)) (hresolve : fields.resolve = .ok date) :
    date.Valid ∧ c.micro < 1000000 ∧
      ∃ passed offset, Written text passed date c offset ∧ zone = offset.map heardOffset := by
  unfold readFields at h
  simp only [Option.bind_eq_bind, Option.bind_eq_some_iff] at h
  obtain ⟨width, hwidth, fields, hdate, h⟩ := h
  have htext := List.take_append_drop width text
  split at h
  · next hdrop =>
    simp only [Option.some.injEq, Prod.mk.injEq] at h
    obtain ⟨rfl, rfl, rfl⟩ := h
    obtain ⟨hday, hvalid⟩ := readDate_sound hdate hresolve
    rw [hdrop, List.append_nil] at htext
    rw [htext] at hday
    exact ⟨hvalid, by decide, [], none, .date hday, rfl⟩
  · next separator time hdrop =>
    simp only [Option.bind_eq_some_iff, Prod.exists, Option.some.injEq, Prod.mk.injEq] at h
    obtain ⟨clock, zone, hread, rfl, rfl, rfl⟩ := h
    obtain ⟨hday, hvalid⟩ := readDate_sound hdate hresolve
    obtain ⟨passed, offset, htime, rfl⟩ := readTime_sound hread
    have hmicro : clock.micro < 1000000 := by
      cases htime with
      | unzoned hclock | zoned hclock => exact hclock.micro_lt
    refine ⟨hvalid, hmicro, passed, offset, ?_, rfl⟩
    rw [← htext, hdrop]
    exact .dateTime separator hday htime

/-- What is read from a text is what it writes, but for offsets of less than a second. -/
theorem readMoment_sound {m : Moment} (h : readMoment text = .ok m) :
    m.Valid ∧ ∃ passed offset, Written text passed m.date m.clock offset ∧
      m.offset = offset.map heardOffset := by
  unfold readMoment at h
  split at h
  · cases h
  · next fields clock zone hfields =>
    have hparts : ∃ date, fields.resolve = .ok date ∧ clock.check = .ok clock ∧
        m = ⟨date, clock, zone⟩ ∧ ∀ micros ∈ zone, -microsPerDay < micros ∧
          micros < microsPerDay := by
      split at h
      · next micros =>
        split_ifs at h with hrange
        obtain ⟨date, hdate, hrest⟩ := bind_eq_ok_iff.mp h
        obtain ⟨clock', hclock, hm⟩ := bind_eq_ok_iff.mp hrest
        obtain rfl := (Clock.check_eq_ok_iff.mp hclock).1
        refine ⟨date, hdate, hclock, (pure_eq_ok_iff.mp hm).symm, fun micros' hmicros => ?_⟩
        obtain rfl : micros = micros' := by simpa using hmicros
        omega
      · obtain ⟨date, hdate, hrest⟩ := bind_eq_ok_iff.mp h
        obtain ⟨clock', hclock, hm⟩ := bind_eq_ok_iff.mp hrest
        obtain rfl := (Clock.check_eq_ok_iff.mp hclock).1
        exact ⟨date, hdate, hclock, (pure_eq_ok_iff.mp hm).symm, by simp⟩
    obtain ⟨date, hdate, hclock, rfl, hzone⟩ := hparts
    obtain ⟨-, hhour, hminute, hsecond⟩ := Clock.check_eq_ok_iff.mp hclock
    obtain ⟨hvalid, hmicro, hwritten⟩ := readFields_sound hfields hdate
    exact ⟨⟨hvalid, ⟨hhour, hminute, hsecond, hmicro⟩, hzone⟩, hwritten⟩

theorem readMoment_of_readFields {fields : DateFields} {m : Moment} (hvalid : m.Valid)
    (h : readFields text = some (fields, m.clock, m.offset))
    (hresolve : fields.resolve = .ok m.date) : readMoment text = .ok m := by
  have hcheck : m.clock.check = .ok m.clock :=
    Clock.check_eq_ok_iff.mpr ⟨rfl, hvalid.clock.hour_le, hvalid.clock.minute_le,
      hvalid.clock.second_le⟩
  have hoffset := hvalid.offset
  obtain ⟨date, clock, offset⟩ := m
  unfold readMoment
  rw [h]
  cases offset with
  | none =>
    simp only [hresolve, hcheck]
    rfl
  | some micros =>
    obtain ⟨hlo, hhi⟩ := hoffset micros rfl
    simp only [hresolve, hcheck]
    rw [if_neg (by omega)]
    rfl

theorem readMoment_of_proper {date : Date} {offset : Option Int} (h : Proper text date c offset)
    (hvalid : (⟨date, c, offset.map heardOffset⟩ : Moment).Valid) :
    readMoment text = .ok ⟨date, c, offset.map heardOffset⟩ := by
  cases h with
  | date hday =>
    obtain ⟨fields, hread, hresolve⟩ := readDate_of_dateText hday hvalid.date
    have hwidth := dateWidth_of_dateText [] hday (by simp)
    rw [List.append_nil] at hwidth
    refine readMoment_of_readFields hvalid ?_ hresolve
    simp only [readFields, hwidth, Option.bind_eq_bind, Option.bind_some, List.take_length, hread,
      List.drop_length, Option.map_none]
  | @dateTime day time separator date c offset hday hseparates htime =>
    obtain ⟨fields, hread, hresolve⟩ := readDate_of_dateText hday hvalid.date
    have hwidth := dateWidth_of_dateText (separator :: time) hday (by
      intro ch hch
      obtain rfl : separator = ch := by simpa using hch
      exact hseparates)
    refine readMoment_of_readFields hvalid ?_ hresolve
    simp only [readFields, hwidth, Option.bind_eq_bind, Option.bind_some, List.take_left, hread,
      List.drop_left, readTime_of_timeText htime]

end WorldQuery.Time
