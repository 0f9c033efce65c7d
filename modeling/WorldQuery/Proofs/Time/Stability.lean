import WorldQuery.Proofs.Query.WireForm
import WorldQuery.Proofs.Time.Instant

/-!
# Reading a timestamp that was written

What is written for a timestamp is read again when it becomes a leaf of an answer. It is a text in
UTC with a year of four digits, and then it is read as it stands, unless the year is before 1000.
The digits of such a year are not padded, so there are fewer than four of them, and no timestamp
starts so: `momentText_again`.
-/

namespace WorldQuery.Time

open Number Text Success Scalar

variable {text : List Char} {date : Date} {c : Clock} {width : Nat}

/-! ### What is written -/

theorem exists_of_secondsText {total : Int} {s : String} (h : Moment.secondsText total = .ok s) :
    ∃ n seconds : Nat, n < Date.lastOrdinal ∧ seconds < 86400 ∧
      total = (n + 1) * 86400 + seconds := by
  unfold Moment.secondsText at h
  dsimp only at h
  split_ifs at h with hrange
  rw [Int.fdiv_eq_ediv_of_nonneg _ (by decide)] at hrange
  obtain ⟨hlo, hhi⟩ := hrange
  exact ⟨(total / 86400 - 1).toNat, (total % 86400).toNat, by omega, by omega, by omega⟩

theorem width_of_year {year : Nat} (hlast : year ≤ lastYear) :
    (1000 ≤ year → (digits 10 year).length = 4) ∧ (year < 1000 → (digits 10 year).length < 4) := by
  have hthree := length_digits_le_iff (n := year) (by decide : 2 ≤ 10) (by decide : 1 ≤ 3)
  have hfour := length_digits_le_iff (n := year) (by decide : 2 ≤ 10) (by decide : 1 ≤ 4)
  unfold lastYear at hlast
  omega

theorem digitChar_not_blank : ∀ d < 10, isBlank (digitChar d) = false := by decide

theorem isBlank_of_writes {value : Nat} (h : Writes width text value) :
    ∀ ch ∈ text, isBlank ch = false := by
  intro ch hch
  obtain ⟨d, hd, rfl⟩ := h.exists_digit hch
  exact digitChar_not_blank d hd

theorem UtcText.trim_eq (h : UtcText width text date c) : trim text = text := by
  apply trim_of_forall_not
  obtain ⟨hy, hmo, hd, hh, hmi, hs⟩ := h
  simp only [List.forall_mem_append, List.forall_mem_cons]
  exact ⟨isBlank_of_writes hy, by decide, isBlank_of_writes hmo, by decide, isBlank_of_writes hd,
    by decide, isBlank_of_writes hh, by decide, isBlank_of_writes hmi, by decide,
    isBlank_of_writes hs, by decide, by simp⟩

/-! ### How it is read -/

theorem UtcText.proper (h : UtcText 4 text date c) (hwf : date.WellFormed) :
    Proper text date c (some 0) := by
  obtain @⟨y, mo, d, hs, mi, s, date, hour, minute, second, hy, hmo, hd, hh, hmi, hsec⟩ := h
  have hday := DateText.calendar true hy hmo hd hwf
  have hclock := ClockText.seconds true hh hmi hsec .none
  have hseparates (day : List Char) : Separates day 'T' := fun _ => ⟨by decide, by decide⟩
  have hbetween : ∀ ch ∈ ([] : List Char), isZoneMark ch = false := by simp
  have hended : Ended [] := by simp [Ended]
  have hproper := Proper.dateTime hday (hseparates _) (.zoned hclock hbetween .utc hended)
  simpa [dashText, colonText] using hproper

theorem exists_year_of_readFields {fields : DateFields × Clock × Option Int}
    (h : readFields text = some fields) : ∃ y rest year, text = y ++ rest ∧ Writes 4 y year := by
  unfold readFields at h
  simp only [Option.bind_eq_bind, Option.bind_eq_some_iff] at h
  obtain ⟨width, -, date, hdate, -⟩ := h
  unfold readDate at hdate
  simp only [Option.bind_eq_bind, Option.bind_eq_some_iff, Prod.exists] at hdate
  obtain ⟨year, rest, hyear, -⟩ := hdate
  obtain ⟨y, htake, hy⟩ := fixedDigits_eq_some_iff.mp hyear
  refine ⟨y, rest ++ text.drop width, year, ?_, hy⟩
  rw [← List.append_assoc, ← htake, List.take_append_drop]

theorem UtcText.malformed (h : UtcText width text date c) (hwidth : width < 4) :
    readMoment text = .error (.malformed (String.ofList text)) := by
  have hnone : readFields text = none := by
    rw [Option.eq_none_iff_forall_ne_some]
    intro fields hfields
    obtain ⟨y, rest, year, htext, hyear⟩ := exists_year_of_readFields hfields
    obtain ⟨hy, -⟩ := h
    have hdash : '-' ∈ y := by
      have hget := congrArg (·[width]?) htext
      rw [List.getElem?_append_right hy.length_eq.le, hy.length_eq, Nat.sub_self,
        List.getElem?_cons_zero, List.getElem?_append_left (hyear.length_eq ▸ hwidth)] at hget
      exact List.mem_of_getElem? hget.symm
    obtain ⟨d, hd, heq⟩ := hyear.exists_digit hdash
    exact (digitChar_ne_dash d hd).1 heq.symm
  simp only [readMoment, hnone]

/-! ### Writing what was read -/

section Seconds

variable {n seconds : Nat} {s : String}

theorem valid_ofSeconds (hn : n < Date.lastOrdinal) (hseconds : seconds < 86400)
    {offset : Option Int} (hoffset : ∀ micros ∈ offset, micros = 0) :
    (⟨Date.after n, Clock.ofSeconds seconds, offset⟩ : Moment).Valid := by
  refine ⟨Date.valid_after hn, Clock.ofSeconds_valid hseconds, fun micros hmicros => ?_⟩
  obtain rfl := hoffset micros hmicros
  decide

theorem momentText_of_utcText (hn : n < Date.lastOrdinal) (hseconds : seconds < 86400)
    (h : UtcText 4 s.toList (Date.after n) (Clock.ofSeconds seconds)) :
    momentText (.text s) = (Moment.secondsText ((n + 1) * 86400 + seconds)).mapError .time := by
  have hread : readMoment (trim s.toList) =
      .ok ⟨Date.after n, Clock.ofSeconds seconds, some 0⟩ := by
    rw [h.trim_eq]
    exact readMoment_of_proper (h.proper (Date.wellFormed_after n))
      (valid_ofSeconds hn hseconds (by simp [heardOffset]))
  have hat : (⟨Date.after n, Clock.ofSeconds seconds, some 0⟩ : Moment).At _ := ⟨n, rfl, rfl⟩
  have htotal : (⟨Date.after n, Clock.ofSeconds seconds, some 0⟩ : Moment).utcSeconds =
      (n + 1) * 86400 + seconds := by
    rw [hat.utcSeconds_eq, Clock.micros_ofSeconds, Option.getD_some]
    unfold microsPerDay
    omega
  rw [momentText_text hread, momentText, Moment.utcText, htotal]

theorem momentText_of_malformed (h : UtcText width s.toList date c) (hwidth : width < 4) :
    momentText (.text s) = .error (.time (.malformed s)) := by
  simp only [momentText, h.trim_eq, h.malformed hwidth, Except.bind, Except.mapError,
    String.ofList_toList]

end Seconds

/-- The text of a timestamp is read as it stands if the year has four digits, and then it is also
the leaf of an answer. A year before 1000 has fewer, and then the text is refused in both places. -/
theorem momentText_again {d : Datum} {s : String} (h : momentText d = .ok s) :
    ∃ date c, (⟨date, c, none⟩ : Moment).Valid ∧
      (1000 ≤ date.year → UtcText 4 s.toList date c ∧ momentText (.text s) = .ok s ∧
        Query.outputAsScalar .dateTime (.text s) = .ok (.text s)) ∧
      (date.year < 1000 → (∃ width < 4, UtcText width s.toList date c) ∧
        momentText (.text s) = .error (.time (.malformed s)) ∧
        Query.outputAsScalar .dateTime (.text s) =
          .error (.scalar (.time (.malformed s)))) := by
  obtain ⟨m, hm⟩ := Query.exists_moment h
  obtain ⟨n, seconds, hn, hseconds, htotal⟩ := exists_of_secondsText hm
  rw [Moment.utcText, htotal] at hm
  obtain ⟨s', hs', htext⟩ := secondsText_of_lt hn hseconds
  obtain rfl : s' = s := by
    rw [hs'] at hm
    exact Except.ok.inj hm
  have hvalid := @valid_ofSeconds _ _ hn hseconds none (by simp)
  obtain ⟨hlate, hearly⟩ := width_of_year hvalid.date.2.1
  refine ⟨_, _, hvalid, ?_, ?_⟩
  · intro hyear
    rw [hlate hyear] at htext
    have hagain : momentText (.text s') = .ok s' := by
      rw [momentText_of_utcText hn hseconds htext]
      exact mapError_eq_ok_iff.mpr hs'
    refine ⟨htext, hagain, ?_⟩
    simp only [Query.outputAsScalar, Value.toDatum, hagain, Except.map, Except.mapError]
  · intro hyear
    have hrefused := momentText_of_malformed htext (hearly hyear)
    refine ⟨⟨_, hearly hyear, htext⟩, hrefused, ?_⟩
    simp only [Query.outputAsScalar, Value.toDatum, hrefused, Except.map, Except.mapError]

example : momentText (.text "0099-05-05T05:05:05") = .ok "99-05-05T05:05:05Z" := rfl

/-- A timestamp with an offset. -/
theorem momentText_again_offset :
    momentText (.text "2024-01-01T02:30:00+02:00") = .ok "2024-01-01T00:30:00Z" ∧
      ∃ date c, (⟨date, c, none⟩ : Moment).Valid ∧
        (1000 ≤ date.year → UtcText 4 "2024-01-01T00:30:00Z".toList date c ∧
          momentText (.text "2024-01-01T00:30:00Z") = .ok "2024-01-01T00:30:00Z" ∧
          Query.outputAsScalar .dateTime (.text "2024-01-01T00:30:00Z") =
            .ok (.text "2024-01-01T00:30:00Z")) ∧
        (date.year < 1000 → (∃ width < 4, UtcText width "2024-01-01T00:30:00Z".toList date c) ∧
          momentText (.text "2024-01-01T00:30:00Z") =
            .error (.time (.malformed "2024-01-01T00:30:00Z")) ∧
          Query.outputAsScalar .dateTime (.text "2024-01-01T00:30:00Z") =
            .error (.scalar (.time (.malformed "2024-01-01T00:30:00Z")))) := by
  have h : momentText (.text "2024-01-01T02:30:00+02:00") = .ok "2024-01-01T00:30:00Z" := rfl
  exact ⟨h, momentText_again h⟩

end WorldQuery.Time
