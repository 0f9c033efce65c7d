import WorldQuery.Proofs.Discovery.Rows
import WorldQuery.Proofs.Time.Instant
import WorldQuery.Proofs.Time.Stamp

/-!
# The creation time that is shown

A component shows the moment of its creation stamp, and a storage record shows the moment of its
timestamp. The two are read by rules of their own. A text that begins with a date and that both
rules read is shown as the same time, or its instant leaves the calendar and neither is shown:
`createdAt_eq_momentText`.
-/

namespace WorldQuery.Component

open Number Success Text Time Scalar

variable {row : Row} {m : Moment}

/-- A moment has a text in UTC unless its instant is outside the calendar. -/
theorem utcText_outcome (m : Moment) :
    (∃ text, m.utcText = .ok text) ∨ m.utcText = .error .outsideCalendar := by
  unfold Moment.utcText Moment.secondsText
  dsimp only
  split_ifs
  · exact .inl ⟨_, rfl⟩
  · exact .inr rfl

theorem Valid.issues_eq_nil (h : Valid row) :
    ((textColumns.map fun entry => (entry.1, entry.2, readText (Assoc.get? row entry.1))).map
      fun entry => Issue.ofReading entry.1 entry.2.2).flatten = [] := by
  rw [List.flatten_eq_nil_iff, List.map_map]
  intro issues hissues
  obtain ⟨entry, hentry, rfl⟩ := List.mem_map.mp hissues
  obtain ⟨text, htext⟩ := h.1 entry hentry
  simp only [Function.comp_apply, htext]
  rfl

theorem Valid.createdAt (h : Valid row)
    (hstamp : readStamp (Assoc.get? row stampColumn) = .ok m) :
    (∃ text r, m.utcText = .ok text ∧ ofRow row = .ok r ∧
      r.get? "createdAt" = some (.text text)) ∨
    (m.utcText = .error .outsideCalendar ∧
      ofRow row = .error (.scalar (.time .outsideCalendar))) := by
  have hrow : ofRow row = (m.utcText.mapError (Fault.scalar ∘ .time)).map fun created =>
      ⟨textColumns.map (fun entry => (entry.2, textValue (readText (Assoc.get? row entry.1)))) ++
        [("createdAt", .text created)], some typeName⟩ := by
    unfold ofRow
    dsimp only
    rw [hstamp, h.issues_eq_nil]
    dsimp only [Issue.ofReading, List.nil_append]
    cases m.utcText <;> rfl
  rw [hrow]
  rcases utcText_outcome m with ⟨text, htext⟩ | houtside
  · rw [htext]
    exact .inl ⟨text, _, rfl, rfl, rfl⟩
  · rw [houtside]
    exact .inr ⟨rfl, rfl⟩

theorem readStamp_text_iff {s : String} :
    readStamp (some (.text s)) = .ok m ↔ Stamp.readText s.toList = some m := by
  unfold readStamp
  simp only [bind_eq_ok_iff, Coercion.text?, Except.ok.injEq, exists_eq_left']
  cases Stamp.readText s.toList <;> simp

/-- A text that begins with a date and is read both as the stamp of a component and as a timestamp
is shown as one time, or is refused both times because the time is outside the calendar. -/
theorem createdAt_eq_momentText {s : String} (hvalid : Valid row)
    (hstamp : Assoc.get? row stampColumn = some (.text s)) (hday : BeginsWithDay s.toList)
    (hread : readMoment (trim s.toList) = .ok m) :
    (∃ shown r, momentText (.text s) = .ok shown ∧
      coerce .dateTime (.text s) = .ok (.text shown) ∧
      ofRow row = .ok r ∧ r.get? "createdAt" = some (.text shown)) ∨
    ∃ fault, fault.nature = .overflow ∧ momentText (.text s) = .error fault ∧
      coerce .dateTime (.text s) = .error fault ∧ ofRow row = .error (.scalar fault) := by
  obtain ⟨read, hstamped⟩ := hvalid.2
  obtain rfl : m = read :=
    Stamp.readText_eq_of_readMoment hday (readStamp_text_iff.mp (hstamp ▸ hstamped)) hread
  have hcoerce : coerce .dateTime (.text s) = (momentText (.text s)).map .text := rfl
  have hmoment : momentText (.text s) = m.utcText.mapError .time := momentText_text hread
  rw [hcoerce, hmoment]
  rcases hvalid.createdAt hstamped with ⟨shown, r, hshown, hr, hcreated⟩ | ⟨houtside, hr⟩
  · rw [hshown]
    exact .inl ⟨shown, r, rfl, rfl, hr, hcreated⟩
  · rw [houtside]
    exact .inr ⟨_, rfl, rfl, rfl, hr⟩

def stamped (s : String) : Row :=
  columns.zip [.text "0x1", .text "Position", .text "0x9", .text "0x8", .text "0x7",
    .text "x: Felt", .text s]

theorem valid_stamped {s : String} (h : Stamp.readText s.toList = some m) : Valid (stamped s) :=
  valid_zip rfl (readStamp_text_iff.mpr h)

/-- A time with seven digits of a second and a zone, and a time before the first one. -/
theorem createdAt_of_spelled :
    (∃ r, momentText (.text "2024-01-01_12:30:45,1234567+0130") = .ok "2024-01-01T11:00:45Z" ∧
      ofRow (stamped "2024-01-01_12:30:45,1234567+0130") = .ok r ∧
      r.get? "createdAt" = some (.text "2024-01-01T11:00:45Z")) ∧
    ∃ fault, fault.nature = .overflow ∧
      momentText (.text "0001-01-01T00:00+01:00") = .error fault ∧
      ofRow (stamped "0001-01-01T00:00+01:00") = .error (.scalar fault) := by
  have hfirst : BeginsWithDay "2024-01-01_12:30:45,1234567+0130".toList :=
    ⟨padded 4 2024, padded 2 1, padded 2 1, "_12:30:45,1234567+0130".toList, _, _, _, by decide,
      writes_padded (by decide) (by decide), writes_padded (by decide) (by decide),
      writes_padded (by decide) (by decide)⟩
  have hsecond : BeginsWithDay "0001-01-01T00:00+01:00".toList :=
    ⟨padded 4 1, padded 2 1, padded 2 1, "T00:00+01:00".toList, _, _, _, by decide,
      writes_padded (by decide) (by decide), writes_padded (by decide) (by decide),
      writes_padded (by decide) (by decide)⟩
  have hshown : momentText (.text "2024-01-01_12:30:45,1234567+0130") =
      .ok "2024-01-01T11:00:45Z" := rfl
  have hrefused : momentText (.text "0001-01-01T00:00+01:00") =
      .error (.time .outsideCalendar) := rfl
  constructor
  · obtain ⟨m, hm⟩ : ∃ m, Stamp.readText "2024-01-01_12:30:45,1234567+0130".toList = some m :=
      Option.isSome_iff_exists.mp (by decide +kernel)
    obtain ⟨m', hm'⟩ : ∃ m, readMoment (trim "2024-01-01_12:30:45,1234567+0130".toList) = .ok m :=
      exists_eq_ok (by decide +kernel)
    rcases createdAt_eq_momentText (valid_stamped hm) rfl hfirst hm' with
      ⟨shown, r, h, -, hr, hcreated⟩ | ⟨fault, -, h, -⟩
    · obtain rfl := Except.ok.inj (hshown.symm.trans h)
      exact ⟨r, hshown, hr, hcreated⟩
    · cases hshown.symm.trans h
  · obtain ⟨m, hm⟩ : ∃ m, Stamp.readText "0001-01-01T00:00+01:00".toList = some m :=
      Option.isSome_iff_exists.mp (by decide +kernel)
    obtain ⟨m', hm'⟩ : ∃ m, readMoment (trim "0001-01-01T00:00+01:00".toList) = .ok m :=
      exists_eq_ok (by decide +kernel)
    rcases createdAt_eq_momentText (valid_stamped hm) rfl hsecond hm' with
      ⟨shown, r, h, -⟩ | ⟨fault, hfault, h, -, hr⟩
    · cases hrefused.symm.trans h
    · exact ⟨fault, hfault, h, hr⟩

end WorldQuery.Component
