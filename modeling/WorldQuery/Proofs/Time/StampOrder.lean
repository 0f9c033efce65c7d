import WorldQuery.Proofs.Store.Letters
import WorldQuery.Proofs.Time.Instant
import WorldQuery.Proofs.Time.Stamp

/-!
# Stamps in the order of their letters

A store sorts stamps letter by letter, while they denote instants. Stamps of one `Style` have the
same separator, the same mark before a fraction and the same zone; sorted by letters they are sorted
by time, as long as they are equally long or their zone sorts before the mark:
`Styled.le_of_notAfter`. Moments of one zone that were written by the store are of one style,
`styled_plainText`.
-/

namespace WorldQuery.Time

open Number Text
open Store (NotAfter not_notAfter_nil notAfter_cons_iff leading_lt cut_le_cut)

/-! ### Styles -/

/-- How stamps are written: what stands between date and time, what before a fraction of a second,
and the zone at the end. -/
structure Style where
  separator : Char
  mark : Char
  zone : List Char
  offset : Option Int
  isSeparator : Stamp.isSeparator separator = true
  isMark : mark = '.' ∨ mark = ','
  readZone : Stamp.readZone zone = some offset

/-- The end of a clock reading: nothing, seconds, or seconds and a fraction of up to nine digits,
cut to microseconds. -/
inductive SecondsText (mark : Char) : List Char → Nat → Nat → Prop
  | none : SecondsText mark [] 0 0
  | whole {s : List Char} {second : Nat} : Writes 2 s second → second ≤ 59 →
      SecondsText mark (':' :: s) second 0
  | cut {s f : List Char} {second width value : Nat} : Writes 2 s second → second ≤ 59 →
      Writes width f value → 1 ≤ width → width ≤ 9 →
      SecondsText mark (':' :: (s ++ mark :: f)) second (value * 10 ^ 6 / 10 ^ width)

/-- A stamp of a style, and its moment. -/
inductive Styled (style : Style) : List Char → Moment → Prop
  | day {day : List Char} {date : Date} : DayText day date → style.zone = [] →
      Styled style day ⟨date, Clock.midnight, style.offset⟩
  | time {day h mi tail : List Char} {date : Date} {hour minute second micro : Nat} :
      DayText day date → Writes 2 h hour → Writes 2 mi minute →
      SecondsText style.mark tail second micro → hour ≤ 23 → minute ≤ 59 →
      Styled style (day ++ style.separator :: (h ++ ':' :: (mi ++ (tail ++ style.zone))))
        ⟨date, ⟨hour, minute, second, micro⟩, style.offset⟩

/-- The zone sorts before anything else that can follow a clock reading of the style. -/
def Style.ZoneFirst (style : Style) : Prop := ∀ ch ∈ style.zone.head?, ch.toNat < style.mark.toNat

variable {style : Style} {day day' text text' rest rest' : List Char} {date date' : Date}
  {m m' : Moment} {x y : Int}

/-! ### Dates and times in order -/

theorem DayText.lt_or_eq (hd : DayText day date) (hd' : DayText day' date')
    (h : NotAfter (day ++ rest) (day' ++ rest')) :
    date.ordinal < date'.ordinal ∨ date = date' ∧ NotAfter rest rest' := by
  have hwf := (Date.valid_iff.mp hd.valid).1
  have hwf' := (Date.valid_iff.mp hd'.valid).1
  obtain ⟨hy, hm, hday, -⟩ := hd
  obtain ⟨hy', hm', hday', -⟩ := hd'
  simp only [List.append_assoc, List.cons_append] at h
  rcases h.numerals hy hy' with hyear | ⟨hyear, h⟩
  · exact Or.inl (Date.ordinal_lt_of_year_lt hwf hwf' hyear)
  rcases h.tail.numerals hm hm' with hmonth | ⟨hmonth, h⟩
  · exact Or.inl (Date.ordinal_lt_of_month_lt hwf hwf' hyear hmonth)
  rcases h.tail.numerals hday hday' with hlt | ⟨heq, h⟩
  · refine Or.inl ?_
    unfold Date.ordinal
    rw [hyear, hmonth]
    exact Nat.add_lt_add_left hlt _
  · refine Or.inr ⟨?_, h⟩
    rw [Date.mk.injEq]
    exact ⟨hyear, hmonth, heq⟩

theorem DayText.length_eq (h : DayText day date) : day.length = 10 := by
  obtain ⟨hy, hm, hd, -⟩ := h
  simp [hy.length_eq, hm.length_eq, hd.length_eq]

theorem SecondsText.micro_lt {mark : Char} {tail : List Char} {second micro : Nat}
    (h : SecondsText mark tail second micro) : second ≤ 59 ∧ micro < 1000000 := by
  cases h with
  | none => exact ⟨by decide, by decide⟩
  | whole _ hsecond => exact ⟨hsecond, by decide⟩
  | cut _ hsecond hf _ _ =>
    refine ⟨hsecond, ?_⟩
    rw [Nat.div_lt_iff_lt_mul (by positivity), Nat.mul_comm]
    exact Nat.mul_lt_mul_of_pos_left hf.value_lt (by decide)

theorem Style.mark_lt (style : Style) : style.mark.toNat < 48 := by
  rcases style.isMark with h | h <;> rw [h] <;> decide

theorem Style.mark_le_colon (style : Style) : style.mark.toNat ≤ ':'.toNat :=
  style.mark_lt.le.trans (by decide)

theorem Style.ZoneFirst.not_notAfter (h : style.ZoneFirst) {ch : Char}
    (hch : style.mark.toNat ≤ ch.toNat) : ¬NotAfter (ch :: rest) style.zone := by
  intro hnot
  cases hzone : style.zone with
  | nil => exact not_notAfter_nil (hzone ▸ hnot)
  | cons first more =>
    have hfirst := h first (by rw [hzone]; rfl)
    rw [hzone, notAfter_cons_iff] at hnot
    omega

theorem SecondsText.le {tail tail' : List Char} {second second' micro micro' : Nat}
    (ht : SecondsText style.mark tail second micro)
    (ht' : SecondsText style.mark tail' second' micro')
    (halike : tail.length = tail'.length ∨ style.ZoneFirst)
    (h : NotAfter (tail ++ style.zone) (tail' ++ style.zone)) :
    second * 1000000 + micro ≤ second' * 1000000 + micro' := by
  have hmark := style.mark_lt
  have hless := ht.micro_lt.2
  cases ht with
  | none => exact Nat.zero_le _
  | @whole s _ hs _ =>
    cases ht' with
    | none =>
      have hfirst := halike.resolve_left (by simp)
      exact absurd h (hfirst.not_notAfter style.mark_le_colon)
    | whole hs' _ =>
      rcases h.tail.numerals hs hs' with hlt | ⟨rfl, -⟩
      · exact (leading_lt hlt hless).le
      · exact le_rfl
    | @cut s' f' _ _ _ hs' _ _ _ _ =>
      have htail : NotAfter (s ++ style.zone) (s' ++ (style.mark :: (f' ++ style.zone))) := by
        simpa using h.tail
      rcases htail.numerals hs hs' with hlt | ⟨rfl, -⟩
      · exact (leading_lt hlt hless).le
      · exact Nat.add_le_add_left (Nat.zero_le _) _
  | @cut s f _ _ _ hs _ hf hwidth _ =>
    have htext : NotAfter (':' :: (s ++ (style.mark :: (f ++ style.zone))))
        (tail' ++ style.zone) := by simpa using h
    cases ht' with
    | none =>
      have hfirst := halike.resolve_left (by simp)
      exact absurd htext (hfirst.not_notAfter style.mark_le_colon)
    | whole hs' _ =>
      rcases htext.tail.numerals hs hs' with hlt | ⟨rfl, hrest⟩
      · exact (leading_lt hlt hless).le
      · have hfirst := halike.resolve_left (by simp [hs.length_eq, hs'.length_eq])
        exact absurd hrest (hfirst.not_notAfter le_rfl)
    | @cut s' f' _ _ _ hs' _ hf' _ _ =>
      have htail : NotAfter (s ++ (style.mark :: (f ++ style.zone)))
          (s' ++ (style.mark :: (f' ++ style.zone))) := by simpa using htext.tail
      rcases htail.numerals hs hs' with hlt | ⟨rfl, hrest⟩
      · exact (leading_lt hlt hless).le
      · refine Nat.add_le_add_left (cut_le_cut (hrest.tail.fractions hf hf' ?_)) _
        rcases halike with hlength | hfirst
        · left
          simpa [hs.length_eq, hs'.length_eq, hf.length_eq, hf'.length_eq] using hlength
        · right
          exact fun ch hch => (hfirst ch hch).trans hmark

theorem Moment.At.le (hx : m.At x) (hy : m'.At y) (hoffset : m.offset = m'.offset)
    (h : m.date.ordinal < m'.date.ordinal ∧ (m.clock.micros : Int) < microsPerDay ∨
      m.date = m'.date ∧ m.clock.micros ≤ m'.clock.micros) : x ≤ y := by
  obtain ⟨n, hn, rfl⟩ := hx
  obtain ⟨k, hk, rfl⟩ := hy
  rw [hoffset]
  rcases h with ⟨hdate, hclock⟩ | ⟨hdate, hclock⟩
  · rw [hn, hk, Date.ordinal_after, Date.ordinal_after] at hdate
    unfold microsPerDay at hclock ⊢
    omega
  · obtain rfl : n = k := Date.after_injective (by rw [← hn, ← hk, hdate])
    omega

theorem Moment.At.unique (hx : m.At x) (hy : m.At y) : x = y :=
  le_antisymm (hx.le hy rfl (Or.inr ⟨rfl, le_rfl⟩)) (hy.le hx rfl (Or.inr ⟨rfl, le_rfl⟩))

theorem Clock.micros_midnight : Clock.midnight.micros = 0 := rfl

theorem Styled.offset_eq (h : Styled style text m) : m.offset = style.offset := by
  cases h <;> rfl

theorem Styled.micros_lt (h : Styled style text m) : (m.clock.micros : Int) < microsPerDay := by
  cases h with
  | day =>
    dsimp only
    rw [Clock.micros_midnight]
    decide
  | time _ _ _ htail hhour hminute =>
    obtain ⟨hsecond, hmicro⟩ := htail.micro_lt
    simp only [Clock.micros]
    unfold microsPerDay
    omega

/-- Stamps of one style are in order of time if they are in order of their letters. -/
theorem Styled.le_of_notAfter (h : Styled style text m) (h' : Styled style text' m')
    (halike : text.length = text'.length ∨ style.ZoneFirst) (hle : NotAfter text text')
    (hx : m.At x) (hy : m'.At y) : x ≤ y := by
  refine hx.le hy (h.offset_eq.trans h'.offset_eq.symm) ?_
  have hmicros := h.micros_lt
  cases h with
  | day hday =>
    rw [← List.append_nil text] at hle
    cases h' with
    | day hday' =>
      rw [← List.append_nil text'] at hle
      rcases hday.lt_or_eq hday' hle with hlt | ⟨heq, -⟩
      · exact Or.inl ⟨hlt, hmicros⟩
      · exact Or.inr ⟨heq, le_rfl⟩
    | time hday' =>
      rcases hday.lt_or_eq hday' hle with hlt | ⟨heq, -⟩
      · exact Or.inl ⟨hlt, hmicros⟩
      · exact Or.inr ⟨heq, Clock.micros_midnight.le.trans (Nat.zero_le _)⟩
  | @time day hs mi tail date hour minute second micro hday hhour hminute htail _ hlast =>
    cases h' with
    | day hday' =>
      rw [← List.append_nil text'] at hle
      rcases hday.lt_or_eq hday' hle with hlt | ⟨-, hrest⟩
      · exact Or.inl ⟨hlt, hmicros⟩
      · exact absurd hrest not_notAfter_nil
    | @time day' hs' mi' tail' date' hour' minute' second' micro' hday' hhour' hminute' htail' _
        hlast' =>
      rcases hday.lt_or_eq hday' hle with hlt | ⟨heq, hrest⟩
      · exact Or.inl ⟨hlt, hmicros⟩
      clear hmicros
      refine Or.inr ⟨heq, ?_⟩
      obtain ⟨hsecond, hmicro⟩ := htail.micro_lt
      simp only [Clock.micros]
      rcases hrest.tail.numerals hhour hhour' with hlt | ⟨rfl, hrest⟩
      · omega
      rcases hrest.tail.numerals hminute hminute' with hlt | ⟨rfl, hrest⟩
      · omega
      have htails : tail.length = tail'.length ∨ style.ZoneFirst := by
        refine halike.imp_left fun hlength => ?_
        simpa [hday.length_eq, hday'.length_eq, hhour.length_eq, hhour'.length_eq,
          hminute.length_eq, hminute'.length_eq] using hlength
      have hend := htail.le htail' htails hrest
      generalize (hour * 60 + minute) * 60 = minutes
      rw [Nat.add_mul, Nat.add_mul, Nat.add_assoc, Nat.add_assoc]
      exact Nat.add_le_add_left hend _

/-! ### Stamps of a style are read -/

theorem Style.head_zone (style : Style) {ch : Char} (hch : ch ∈ style.zone.head?) :
    asciiDigit ch = none ∧ ch ≠ ':' ∧ ch ≠ '.' ∧ ch ≠ ',' := by
  have hmark : ch = 'z' ∨ ch = '\u2212' ∨ isZoneMark ch = true := by
    rcases Stamp.readZone_sound style.readZone with ⟨hnil, -⟩ | hforeign | ⟨_, -, hzone, -⟩
    · simp [hnil] at hch
    · obtain ⟨sign, rest, heq, hsign⟩ := hforeign.exists_cons
      obtain rfl : sign = ch := by simpa [heq] using hch
      exact hsign.imp_right Or.inl
    · obtain ⟨sign, rest, heq, hsign⟩ := hzone.exists_mark
      obtain rfl : sign = ch := by simpa [heq] using hch
      exact Or.inr (Or.inr hsign)
  rcases hmark with rfl | rfl | hmark
  · decide
  · decide
  · rcases isZoneMark_iff.mp hmark with rfl | rfl | rfl <;> decide

theorem DayText.readDay (h : DayText day date) (rest : List Char) :
    Stamp.readDay (day ++ rest) = some (date, rest) := by
  obtain ⟨hy, hm, hd, hvalid⟩ := h
  have hdash (rest : List Char) : dash true ('-' :: rest) = some rest := rfl
  simp only [List.append_assoc, List.cons_append]
  unfold Stamp.readDay
  simp only [Option.bind_eq_bind, hy.fixedDigits_append, Option.bind_some, hdash,
    hm.fixedDigits_append, hd.fixedDigits_append]
  exact if_pos hvalid

theorem Stamp.readFraction_append {f z : List Char} {width value : Nat} (hf : Writes width f value)
    (hfirst : 1 ≤ width) (hlast : width ≤ 9)
    (hz : ∀ ch ∈ z.head?, asciiDigit ch = none) :
    Stamp.readFraction (f ++ z) = some (value * 10 ^ 6 / 10 ^ width, z) := by
  have hdigits := takeWhile_digits_append hf hz
  obtain ⟨kept, more, rfl, hkept⟩ : ∃ kept more, width = kept + more ∧ min width 6 = kept :=
    ⟨min width 6, width - min width 6, by omega, rfl⟩
  have hlength := hf.length_eq
  have hcut : kept = 6 ∨ kept < 6 ∧ more = 0 := by omega
  obtain ⟨front, back, v, v', rfl, rfl, hfront, hback⟩ := hf.split
  unfold Stamp.readFraction
  simp only [hdigits, hlength, hkept, Option.bind_eq_bind, hfront.fixedDigits_append,
    Option.bind_some]
  rw [if_pos ⟨hfirst, hlast⟩, micros_cut hcut hback.value_lt, ← hlength, List.drop_left]
  rfl

theorem Style.readSeconds (style : Style) {s : List Char} {second : Nat} (hs : Writes 2 s second) :
    Stamp.readSeconds (s ++ style.zone) = some (second, 0, style.zone) := by
  unfold Stamp.readSeconds
  simp only [Option.bind_eq_bind, hs.fixedDigits_append, Option.bind_some]
  cases hzone : style.zone with
  | nil => rfl
  | cons ch rest =>
    obtain ⟨-, -, hpoint, hcomma⟩ := style.head_zone (show ch ∈ style.zone.head? by simp [hzone])
    simp [hpoint, hcomma]

theorem Style.readSeconds_cut (style : Style) {s f : List Char} {second width value : Nat}
    (hs : Writes 2 s second) (hf : Writes width f value) (hfirst : 1 ≤ width) (hlast : width ≤ 9) :
    Stamp.readSeconds (s ++ style.mark :: (f ++ style.zone)) =
      some (second, value * 10 ^ 6 / 10 ^ width, style.zone) := by
  have hfraction := Stamp.readFraction_append hf hfirst hlast fun ch hch =>
    (style.head_zone hch).1
  unfold Stamp.readSeconds
  simp only [Option.bind_eq_bind, hs.fixedDigits_append, Option.bind_some]
  rw [if_pos style.isMark, hfraction]
  rfl

theorem Style.readClock (style : Style) {h mi tail : List Char} {hour minute second micro : Nat}
    (hh : Writes 2 h hour) (hmi : Writes 2 mi minute)
    (htail : SecondsText style.mark tail second micro) (hhour : hour ≤ 23) (hminute : minute ≤ 59) :
    Stamp.readClock (h ++ ':' :: (mi ++ (tail ++ style.zone))) =
      some (⟨hour, minute, second, micro⟩, style.zone) := by
  unfold Stamp.readClock
  simp only [Option.bind_eq_bind, hh.fixedDigits_append, hmi.fixedDigits_append, Option.bind_some]
  cases htail with
  | none =>
    cases hzone : style.zone with
    | nil => exact if_pos ⟨hhour, hminute, by decide⟩
    | cons ch rest =>
      obtain ⟨-, hcolon, -⟩ := style.head_zone (show ch ∈ style.zone.head? by simp [hzone])
      simp [hcolon, hhour, hminute]
  | whole hs hsecond =>
    simp only [List.cons_append, style.readSeconds hs, Option.bind_some]
    exact if_pos ⟨hhour, hminute, hsecond⟩
  | cut hs hsecond hf hfirst hlast =>
    simp only [List.cons_append, List.append_assoc, style.readSeconds_cut hs hf hfirst hlast,
      Option.bind_some]
    exact if_pos ⟨hhour, hminute, hsecond⟩

theorem Styled.readText_eq (h : Styled style text m) : Stamp.readText text = some m := by
  have hwritten : Stamp.readWritten text = some m := by
    unfold Stamp.readWritten
    cases h with
    | day hday hzone =>
      have hread := hday.readDay []
      have hoffset := style.readZone
      rw [hzone] at hoffset
      rw [List.append_nil] at hread
      simp only [hread, Option.bind_eq_bind, Option.bind_some]
      rw [← Option.some.inj hoffset]
    | time hday hh hmi htail hhour hminute =>
      simp only [hday.readDay, Option.bind_eq_bind, Option.bind_some, style.isSeparator, if_true,
        style.readClock hh hmi htail hhour hminute, style.readZone]
  rw [Stamp.readText, hwritten]

/-! ### Every stamp that is read has an instant -/

theorem Stamp.exists_at_of_ofSeconds {seconds : Int} {micros : Nat}
    (h : Stamp.ofSeconds seconds micros = some m) : ∃ t, m.At t := by
  unfold Stamp.ofSeconds at h
  dsimp only at h
  split_ifs at h with hrange
  obtain rfl := Option.some.inj h
  generalize seconds + (micros / 1000000 : Nat) = total at hrange
  obtain ⟨n, hn⟩ : ∃ n : Nat, (Int.fdiv total 86400 + Stamp.epochOrdinal).toNat = n + 1 := by
    refine ⟨(Int.fdiv total 86400 + Stamp.epochOrdinal).toNat - 1, ?_⟩
    rw [Int.fdiv_eq_ediv_of_nonneg _ (by decide)]
    unfold Stamp.leastSecond at hrange
    unfold Stamp.epochOrdinal
    omega
  refine ⟨_, n, ?_, rfl⟩
  rw [← Date.ofOrdinal_succ, ← hn]
  rfl

theorem Stamp.exists_at_of_ofCount {count : Int} (h : Stamp.ofCount count = some m) :
    ∃ t, m.At t := by
  unfold Stamp.ofCount at h
  split_ifs at h
  · exact Stamp.exists_at_of_ofSeconds h
  · exact Stamp.exists_at_of_ofSeconds h

theorem Stamp.exists_at_of_ofReal {real : Binary64} (h : Stamp.ofReal real = some m) :
    ∃ t, m.At t := by
  unfold Stamp.ofReal at h
  dsimp only at h
  split_ifs at h
  all_goals exact Stamp.exists_at_of_ofSeconds h

theorem Stamp.exists_at_of_readCounted (h : Stamp.readCounted text = some m) : ∃ t, m.At t := by
  unfold Stamp.readCounted at h
  dsimp only at h
  by_cases hlimit : Stamp.countLimit < ofDigits 10 (splitDigits (splitSign text).2).1
  · rw [if_pos hlimit] at h
    cases h
  rw [if_neg hlimit] at h
  split at h
  · split at h
    · cases h
    · exact Stamp.exists_at_of_ofCount h
  · obtain ⟨real, -, hreal⟩ := Option.bind_eq_some_iff.mp h
    exact Stamp.exists_at_of_ofReal hreal
  · cases h

theorem StampText.exists_at (h : StampText text m) : ∃ t, m.At t := by
  have hdate {day : List Char} {date : Date} (hday : DayText day date) (c : Clock)
      (offset : Option Int) : ∃ t, (⟨date, c, offset⟩ : Moment).At t := by
    obtain ⟨n, -, hn⟩ := (Date.valid_iff.mp hday.valid).1.eq_after
    exact ⟨_, n, hn, rfl⟩
  cases h with
  | date hday | unzoned hday | zoned hday | foreign hday => exact hdate hday _ _

theorem Stamp.exists_at_of_readText (h : Stamp.readText text = some m) : ∃ t, m.At t := by
  unfold Stamp.readText at h
  split at h
  · next written hwritten =>
    obtain rfl := Option.some.inj h
    exact (Stamp.readWritten_sound hwritten).exists_at
  · exact Stamp.exists_at_of_readCounted h

/-! ### Moments as the store keeps them -/

theorem Stamp.readZone_minutes {sign : Char} {h mi : List Char} {hour minute : Nat}
    (hutc : ¬(sign = 'Z' ∨ sign = 'z')) (hsign : sign = '+' ∨ isWest sign = true)
    (hh : Writes 2 h hour) (hmi : Writes 2 mi minute) (hhour : hour ≤ 23) (hminute : minute ≤ 59) :
    Stamp.readZone (sign :: (h ++ ':' :: mi)) =
      some (some (if isWest sign then -(((hour * 60 + minute) * 60000000 : Nat) : Int)
        else ((hour * 60 + minute) * 60000000 : Nat))) := by
  have hlast : fixedDigits 2 mi = some (minute, []) := by
    simpa using hmi.fixedDigits_append []
  rw [Stamp.readZone, if_neg hutc, if_pos hsign]
  simp only [Option.bind_eq_bind, hh.fixedDigits_append, Option.bind_some, hlast]
  exact if_pos ⟨rfl, hhour, hminute⟩

theorem readZone_offsetText {micros : Int} (hminutes : micros % 60000000 = 0)
    (hlo : -microsPerDay < micros) (hhi : micros < microsPerDay) :
    Stamp.readZone (Moment.offsetText micros) = some (some micros) := by
  obtain ⟨minutes, hlt, hsize⟩ :
      ∃ minutes, minutes < 1440 ∧ micros.natAbs = minutes * 60000000 := by
    refine ⟨micros.natAbs / 60000000, ?_⟩
    unfold microsPerDay at hlo hhi
    omega
  have hhour : Writes 2 (padded 2 (minutes / 60)) (minutes / 60) :=
    writes_padded (by decide) (by omega)
  have hminute : Writes 2 (padded 2 (minutes % 60)) (minutes % 60) :=
    writes_padded (by decide) (by omega)
  have hsign (sign : Char) (hutc : ¬(sign = 'Z' ∨ sign = 'z'))
      (hsign : sign = '+' ∨ Stamp.isWest sign = true) :=
    Stamp.readZone_minutes hutc hsign hhour hminute (by omega) (by omega)
  have hvalue : (minutes / 60 * 60 + minutes % 60) * 60000000 = micros.natAbs := by omega
  have htext : Moment.offsetText micros = (if micros < 0 then '-' else '+') ::
      (padded 2 (minutes / 60) ++ ':' :: padded 2 (minutes % 60)) := by
    have hhours : micros.natAbs / 1000000 / 3600 = minutes / 60 := by omega
    have hleft : micros.natAbs / 1000000 % 3600 / 60 = minutes % 60 := by omega
    have hwhole : micros.natAbs / 1000000 % 60 = 0 ∧ micros.natAbs % 1000000 = 0 := by omega
    unfold Moment.offsetText
    dsimp only
    rw [hhours, hleft, if_pos hwhole, List.append_nil]
  rw [htext]
  split_ifs with hneg
  · have hwest : -(micros.natAbs : Int) = micros := by omega
    rw [hsign '-' (by decide) (Or.inr rfl), hvalue]
    exact congrArg (fun n => some (some n)) hwest
  · have heast : (micros.natAbs : Int) = micros := by omega
    rw [hsign '+' (by decide) (Or.inl rfl), hvalue]
    exact congrArg (fun n => some (some n)) heast

/-- The offset has hours and minutes only, and less than a day of them. -/
def WholeMinutes (offset : Option Int) : Prop :=
  ∀ micros ∈ offset, micros % 60000000 = 0 ∧ -microsPerDay < micros ∧ micros < microsPerDay

/-- The style of moments of one offset, as the store keeps them. -/
def Style.kept (offset : Option Int) (h : WholeMinutes offset) : Style where
  separator := ' '
  mark := '.'
  zone := (offset.map Moment.offsetText).getD []
  offset := offset
  isSeparator := rfl
  isMark := Or.inl rfl
  readZone := by
    cases offset with
    | none => rfl
    | some micros =>
      obtain ⟨hminutes, hlo, hhi⟩ := h micros rfl
      exact readZone_offsetText hminutes hlo hhi

theorem Style.zoneFirst_kept (offset : Option Int) (h : WholeMinutes offset) :
    (Style.kept offset h).ZoneFirst := by
  intro ch hch
  cases offset with
  | none => cases hch
  | some micros =>
    have hsign : ch = if micros < 0 then '-' else '+' := (Option.some.inj hch).symm
    have hmark : '-'.toNat < '.'.toNat ∧ '+'.toNat < '.'.toNat := by decide
    rw [hsign]
    split_ifs
    · exact hmark.1
    · exact hmark.2

theorem styled_plainText (hvalid : m.Valid) (hminutes : WholeMinutes m.offset) :
    Styled (Style.kept m.offset hminutes) m.plainText.toList m := by
  obtain ⟨date, ⟨hour, minute, second, micro⟩, offset⟩ := m
  obtain ⟨hdate, ⟨hhour, hminute, hsecond, hmicro⟩, -⟩ := hvalid
  dsimp only at hdate hhour hminute hsecond hmicro hminutes
  have hmonth := hdate.2.2.2.1
  have hdays := hdate.2.2.2.2.2.trans (monthLength_le date.year date.month)
  have hyear : date.year < 10 ^ 4 := by
    have hlast : date.year ≤ 9999 := hdate.2.1
    omega
  have hday : DayText (padded 4 date.year ++ '-' :: (padded 2 date.month ++
      '-' :: padded 2 date.day)) date :=
    .intro (writes_padded (by decide) hyear) (writes_padded (by decide) (by omega))
      (writes_padded (by decide) (by omega)) hdate
  have hs : Writes 2 (padded 2 second) second := writes_padded (by decide) (by omega)
  have htail : SecondsText (Style.kept offset hminutes).mark (':' :: (padded 2 second ++
      if micro = 0 then [] else '.' :: padded 6 micro)) second micro := by
    split_ifs with hzero
    · rw [hzero, List.append_nil]
      exact .whole hs hsecond
    · have hf : Writes 6 (padded 6 micro) micro := writes_padded (by decide) hmicro
      have hcut : SecondsText '.' (':' :: (padded 2 second ++ '.' :: padded 6 micro)) second
          (micro * 10 ^ 6 / 10 ^ 6) := .cut hs hsecond hf (by decide) (by decide)
      rwa [Nat.mul_div_cancel _ (by decide)] at hcut
  have hstyled := Styled.time hday (writes_padded (by decide) (by omega))
    (writes_padded (by decide) (by omega)) htail hhour hminute
  simpa [Moment.plainText, Moment.clockText, Style.kept] using hstyled

end WorldQuery.Time
