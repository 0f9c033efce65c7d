import WorldQuery.Proofs.Time.Written
import WorldQuery.Scalar

/-!
# The instant of a timestamp

`Moment.At` says which instant a moment is, in microseconds since the start of the calendar, by
counting days with `Date.after`. A timestamp is shown as its instant in UTC, rounded down to a
second, if the instant lies in the calendar, and is refused if not: `momentText_denotes`.
-/

namespace WorldQuery.Time

open Number Text Success Scalar

variable {text : List Char} {date : Date} {c : Clock} {m : Moment} {t : Int}

/-! ### Instants -/

/-- The instant of a moment: the days since the first date, then the clock reading, less the offset
of the zone. A moment without a zone is one in UTC. -/
def Moment.At (m : Moment) (t : Int) : Prop :=
  ∃ n : Nat, m.date = Date.after n ∧ t = n * microsPerDay + m.clock.micros - m.offset.getD 0

/-- The instant falls on a day of the calendar. -/
def Inside (t : Int) : Prop :=
  ∃ n : Nat, (Date.after n).year ≤ lastYear ∧ n * microsPerDay ≤ t ∧ t < (n + 1) * microsPerDay

theorem Moment.Valid.exists_at (h : m.Valid) : ∃ t, m.At t := by
  obtain ⟨n, -, hn⟩ := (Date.valid_iff.mp h.date).1.eq_after
  exact ⟨_, n, hn, rfl⟩

theorem inside_iff : Inside t ↔ ∃ n : Nat, n < Date.lastOrdinal ∧ t / microsPerDay = n := by
  unfold Inside
  simp only [Date.year_after_le_iff, microsPerDay]
  refine exists_congr fun n => and_congr_right fun _ => ?_
  omega

/-! ### Texts in UTC -/

/-- A text in UTC to the second, with a year of the given width. -/
inductive UtcText (width : Nat) : List Char → Date → Clock → Prop
  | intro {y mo d h mi s : List Char} {date : Date} {hour minute second : Nat} :
      Writes width y date.year → Writes 2 mo date.month → Writes 2 d date.day →
      Writes 2 h hour → Writes 2 mi minute → Writes 2 s second →
      UtcText width
        (y ++ '-' :: (mo ++ '-' :: (d ++ 'T' :: (h ++ ':' :: (mi ++ ':' :: (s ++ ['Z']))))))
        date ⟨hour, minute, second, 0⟩

theorem UtcText.length_eq {width : Nat} (h : UtcText width text date c) :
    text.length = width + 16 := by
  obtain ⟨hy, hmo, hd, hh, hmi, hs⟩ := h
  simp only [List.length_append, List.length_cons, List.length_nil, hy.length_eq, hmo.length_eq,
    hd.length_eq, hh.length_eq, hmi.length_eq, hs.length_eq]

theorem UtcText.unique {width width' : Nat} {date' : Date} {c' : Clock}
    (h : UtcText width text date c) (h' : UtcText width' text date' c') :
    date = date' ∧ c = c' := by
  obtain rfl : width = width' := by
    have hlength := h.length_eq
    rw [h'.length_eq] at hlength
    omega
  obtain @⟨y, mo, d, hs, mi, s, _, hour, minute, second, hy, hmo, hd, hh, hmi, hsec⟩ := h
  generalize htext :
    y ++ '-' :: (mo ++ '-' :: (d ++ 'T' :: (hs ++ ':' :: (mi ++ ':' :: (s ++ ['Z']))))) = text at h'
  obtain ⟨hy', hmo', hd', hh', hmi', hsec'⟩ := h'
  obtain ⟨hyear, htext⟩ := hy.append_inj hy' htext
  obtain ⟨hmonth, htext⟩ := hmo.append_inj hmo' (List.cons.inj htext).2
  obtain ⟨hday, htext⟩ := hd.append_inj hd' (List.cons.inj htext).2
  obtain ⟨rfl, htext⟩ := hh.append_inj hh' (List.cons.inj htext).2
  obtain ⟨rfl, htext⟩ := hmi.append_inj hmi' (List.cons.inj htext).2
  obtain ⟨rfl, -⟩ := hsec.append_inj hsec' (List.cons.inj htext).2
  refine ⟨?_, rfl⟩
  rw [Date.mk.injEq]
  exact ⟨hyear, hmonth, hday⟩

/-! ### Writing an instant -/

/-- The clock reading a number of seconds after midnight. -/
def Clock.ofSeconds (seconds : Nat) : Clock :=
  ⟨seconds / 3600, seconds % 3600 / 60, seconds % 60, 0⟩

section Seconds

variable {n seconds : Nat}

theorem Clock.ofSeconds_valid (h : seconds < 86400) : (Clock.ofSeconds seconds).Valid := by
  constructor <;> simp only [Clock.ofSeconds] <;> omega

theorem Clock.micros_ofSeconds (seconds : Nat) :
    (Clock.ofSeconds seconds).micros = seconds * 1000000 := by
  simp only [Clock.micros, Clock.ofSeconds]
  omega

theorem Date.valid_after (hn : n < Date.lastOrdinal) : (Date.after n).Valid :=
  Date.valid_iff.mpr ⟨Date.wellFormed_after n, Date.year_after_le_iff.mpr hn⟩

/-- The text of a second of the calendar has its date and clock reading. The year is as wide as its
digits. -/
theorem secondsText_of_lt (hn : n < Date.lastOrdinal) (hseconds : seconds < 86400) :
    ∃ s, Moment.secondsText ((n + 1) * 86400 + seconds) = .ok s ∧
      UtcText (digits 10 (Date.after n).year).length s.toList (Date.after n)
        (Clock.ofSeconds seconds) := by
  have hday : Int.fdiv ((n + 1) * 86400 + seconds) 86400 = (n + 1 : Nat) := by
    rw [Int.fdiv_eq_ediv_of_nonneg _ (by decide)]
    omega
  have hrest : (Int.fmod ((n + 1) * 86400 + seconds) 86400).toNat = seconds := by
    rw [Int.fmod_eq_emod_of_nonneg _ (by decide)]
    omega
  have hmonth := (Date.wellFormed_after n).month_le
  have hdays := (Date.wellFormed_after n).day_le
  have hlength := monthLength_le (Date.after n).year (Date.after n).month
  unfold Moment.secondsText
  simp only [hday, hrest, Int.toNat_natCast, Date.ofOrdinal_succ]
  rw [if_pos (by omega)]
  refine ⟨_, rfl, ?_⟩
  rw [String.toList_ofList, Moment.clockText, List.append_assoc, List.cons_append,
    List.append_assoc, List.cons_append]
  exact .intro (writes_numeral _) (writes_padded (by decide) (by omega))
    (writes_padded (by decide) (by omega)) (writes_padded (by decide) (by omega))
    (writes_padded (by decide) (by omega)) (writes_padded (by decide) (by omega))

end Seconds

/-- What is shown for an instant: its second in UTC, if the instant is one of the calendar. -/
structure Denotes (t : Int) (result : Except ScalarFault String) : Prop where
  shown : Inside t → ∃ s width date c, result = .ok s ∧ UtcText width s.toList date c ∧
    (⟨date, c, none⟩ : Moment).Valid ∧ (⟨date, c, none⟩ : Moment).At (t / 1000000 * 1000000)
  outside : ¬Inside t → result = .error (.time .outsideCalendar)

theorem Moment.At.utcSeconds_eq (h : m.At t) : m.utcSeconds = t / 1000000 + 86400 := by
  obtain ⟨n, hn, rfl⟩ := h
  rw [Moment.utcSeconds, hn, Date.ordinal_after, Int.fdiv_eq_ediv_of_nonneg _ (by decide)]
  unfold microsPerDay
  omega

theorem Moment.At.denotes (h : m.At t) : Denotes t (momentText (.moment m)) := by
  have hseconds := h.utcSeconds_eq
  constructor
  · intro hinside
    obtain ⟨n, hn, hday⟩ := inside_iff.mp hinside
    obtain ⟨seconds, hlt, hrest⟩ :
        ∃ seconds : Nat, seconds < 86400 ∧ t / 1000000 = n * 86400 + seconds := by
      refine ⟨(t / 1000000 - n * 86400).toNat, ?_⟩
      unfold microsPerDay at hday
      omega
    obtain ⟨s, hs, htext⟩ := secondsText_of_lt hn hlt
    refine ⟨s, _, _, _, ?_, htext, ⟨Date.valid_after hn, Clock.ofSeconds_valid hlt, by simp⟩,
      n, rfl, ?_⟩
    · have heq : m.utcSeconds = (n + 1) * 86400 + seconds := by omega
      simp [momentText, Moment.utcText, heq, hs, Except.mapError]
    · simp only [Clock.micros_ofSeconds, Option.getD_none]
      unfold microsPerDay
      omega
  · intro houtside
    have hrange : ¬(1 ≤ Int.fdiv m.utcSeconds 86400 ∧
        Int.fdiv m.utcSeconds 86400 ≤ Date.lastOrdinal) := by
      rw [Int.fdiv_eq_ediv_of_nonneg _ (by decide), hseconds]
      rintro ⟨hlo, hhi⟩
      refine houtside (inside_iff.mpr ⟨(t / microsPerDay).toNat, ?_, ?_⟩)
      all_goals
        unfold microsPerDay
        omega
    simp [momentText, Moment.utcText, Moment.secondsText, hrange, Except.mapError]

theorem momentText_text {s : String} (h : readMoment (trim s.toList) = .ok m) :
    momentText (.text s) = momentText (.moment m) := by
  simp only [momentText, h, Except.bind]

/-- Timestamps are shown as their instants. A text has the instant of the date, the clock reading
and the offset that it writes, except that an offset of less than a second is heard as none; the
characters that are passed over do not count. -/
theorem momentText_denotes :
    (∀ m : Moment, m.Valid → ∃ t, m.At t ∧ Denotes t (momentText (.moment m))) ∧
    (∀ (s : String) m, readMoment (trim s.toList) = .ok m →
      m.Valid ∧
      (∃ passed offset, Written (trim s.toList) passed m.date m.clock offset ∧
        m.offset = offset.map heardOffset) ∧
      ∃ t, m.At t ∧ Denotes t (momentText (.text s))) ∧
    ∀ (s : String) date c offset, Proper (trim s.toList) date c offset →
      (⟨date, c, offset.map heardOffset⟩ : Moment).Valid →
      readMoment (trim s.toList) = .ok ⟨date, c, offset.map heardOffset⟩ := by
  refine ⟨?_, ?_, ?_⟩
  · intro m hvalid
    obtain ⟨t, ht⟩ := hvalid.exists_at
    exact ⟨t, ht, ht.denotes⟩
  · intro s m hread
    obtain ⟨hvalid, hwritten⟩ := readMoment_sound hread
    obtain ⟨t, ht⟩ := hvalid.exists_at
    refine ⟨hvalid, hwritten, t, ht, ?_⟩
    rw [momentText_text hread]
    exact ht.denotes
  · intro s date c offset hproper hvalid
    exact readMoment_of_proper hproper hvalid

theorem proper_half_second :
    Proper (trim "2024-01-01T00:00:00+00:00:00.5".toList) ⟨2024, 1, 1⟩ ⟨0, 0, 0, 0⟩
      (some 500000) := by
  have hday : DateText (padded 4 2024 ++ (dashText true ++ (padded 2 1 ++ (dashText true ++
      padded 2 1)))) ⟨2024, 1, 1⟩ :=
    .calendar true (writes_padded (by decide) (by decide)) (writes_padded (by decide) (by decide))
      (writes_padded (by decide) (by decide))
      ⟨by decide, by decide, by decide, by decide, by decide⟩
  have hzero : Writes 2 (padded 2 0) 0 := writes_padded (by decide) (by decide)
  have hhalf : FractionText (colonText true :: fractionMarks) (['.'] ++ padded 1 5) 500000 :=
    .some (by decide) (writes_padded (by decide) (by decide)) (by decide) (by decide)
  have hzone := ZoneText.east (ClockText.seconds true hzero hzero hzero hhalf)
  have hclock := ClockText.seconds true hzero hzero hzero .none
  have hseparates (day : List Char) : Separates day 'T' := fun _ => ⟨by decide, by decide⟩
  have hbetween : ∀ ch ∈ ([] : List Char), isZoneMark ch = false := by simp
  have hended : Ended [] := by simp [Ended]
  exact .dateTime hday (hseparates _) (.zoned hclock hbetween hzone hended)

/-- A moment in a zone half a second east of UTC, the last day of a week of two years, and an offset
that is not heard. -/
theorem momentText_denotes_borrowed :
    (∃ t, (⟨⟨2024, 3, 1⟩, ⟨0, 0, 0, 0⟩, some 500000⟩ : Moment).At t ∧
      Denotes t (momentText (.moment ⟨⟨2024, 3, 1⟩, ⟨0, 0, 0, 0⟩, some 500000⟩))) ∧
    (∃ t, (⟨⟨2021, 1, 3⟩, Clock.midnight, none⟩ : Moment).At t ∧
      Denotes t (momentText (.text "2020-W53-7"))) ∧
    readMoment (trim "2024-01-01T00:00:00+00:00:00.5".toList) =
      .ok ⟨⟨2024, 1, 1⟩, ⟨0, 0, 0, 0⟩, some 0⟩ := by
  refine ⟨momentText_denotes.1 _ ⟨by decide, ⟨by decide, by decide, by decide, by decide⟩, ?_⟩,
    (momentText_denotes.2.1 _ _ (by decide +kernel)).2.2,
    momentText_denotes.2.2 _ _ _ _ proper_half_second
      ⟨by decide, ⟨by decide, by decide, by decide, by decide⟩, ?_⟩⟩
  · intro micros hmicros
    obtain rfl : 500000 = micros := by simpa using hmicros
    decide
  · intro micros hmicros
    obtain rfl : 0 = micros := by simpa [heardOffset] using hmicros
    decide

/-- The half second is taken for nothing, and the timestamp is shown a second late. -/
theorem not_denotes_written_offset :
    ¬∀ (s : String) m offset t, readMoment (trim s.toList) = .ok m →
      Proper (trim s.toList) m.date m.clock offset →
      (⟨m.date, m.clock, offset⟩ : Moment).At t → Denotes t (momentText (.text s)) := by
  intro h
  have hwf : (⟨2024, 1, 1⟩ : Date).WellFormed :=
    ⟨by decide, by decide, by decide, by decide, by decide⟩
  obtain ⟨n, hordinal, hn⟩ := hwf.eq_after
  have hcount : n = 738885 := by
    have hvalue : (⟨2024, 1, 1⟩ : Date).ordinal = 738886 := by decide
    omega
  have hread : readMoment (trim "2024-01-01T00:00:00+00:00:00.5".toList) =
      .ok ⟨⟨2024, 1, 1⟩, ⟨0, 0, 0, 0⟩, some 0⟩ := by decide
  have hdenotes := h _ _ _ _ hread proper_half_second ⟨n, hn, rfl⟩
  have hinside : Inside (n * microsPerDay + (⟨0, 0, 0, 0⟩ : Clock).micros -
      (some (500000 : Int)).getD 0) := by
    refine inside_iff.mpr ⟨738884, by decide, ?_⟩
    rw [hcount]
    decide
  obtain ⟨s, width, date, c, hs, htext, -, k, hk, hinstant⟩ := hdenotes.shown hinside
  have hshown : momentText (.text "2024-01-01T00:00:00+00:00:00.5") =
      .ok "2024-01-01T00:00:00Z" := rfl
  obtain rfl : "2024-01-01T00:00:00Z" = s := by
    rw [hshown] at hs
    exact Except.ok.inj hs
  have hyear : Writes 4 (padded 4 2024) 2024 := writes_padded (by decide) (by decide)
  have hone : Writes 2 (padded 2 1) 1 := writes_padded (by decide) (by decide)
  have hzero : Writes 2 (padded 2 0) 0 := writes_padded (by decide) (by decide)
  have hnewYear := @UtcText.intro 4 _ _ _ _ _ _ ⟨2024, 1, 1⟩ _ _ _ hyear hone hone hzero hzero hzero
  obtain ⟨rfl, rfl⟩ := hnewYear.unique htext
  obtain rfl : n = k := Date.after_injective (hn.symm.trans hk)
  rw [hcount] at hinstant
  exact absurd hinstant (by decide)

end WorldQuery.Time
