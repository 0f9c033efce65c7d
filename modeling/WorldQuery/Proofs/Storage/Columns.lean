import WorldQuery.Proofs.Felt
import WorldQuery.Proofs.Storage.Decoding

/-!
# What a column is decoded as

`Fits` says which value a column has by the type of its field, and `Refused` what is reported for a
column that its type does not accept. A row is decoded field by field in the order of the layout,
and only the columns of the layout count: `decodeRow_typed`. If it is not decoded, the first column
that does not fit is the reason: `decodeRow_refused`.
-/

namespace WorldQuery

open Name Success

def TypeRef.valueKind : TypeRef → ValueKind
  | .object _ => .text
  | .scalar kind =>
    match kind with
    | .int => .int
    | .boolean => .bool
    | .address | .felt | .dateTime | .string | .id => .text

namespace Storage

variable {layout : Layout} {row : Row} {absent : String → Fault} {tag : Option String}
  {field : String} {type : TypeRef} {kind : Scalar} {d : Datum} {v : Value}

/-! ### Values of a type -/

/-- The value that a datum has by the type of its column. -/
inductive Fits : TypeRef → Datum → Value → Prop
  | element {kind : Scalar} {d : Datum} {s : String} : kind = .felt ∨ kind = .address →
      Felt.canonical d = .ok s → Felt.Canonical s → Fits (.scalar kind) d (.text s)
  | dateTime {d : Datum} {s : String} : Scalar.momentText d = .ok s →
      Fits (.scalar .dateTime) d (.text s)
  | text {kind : Scalar} {d : Datum} : kind = .string ∨ kind = .id → d.isWritable = true →
      Fits (.scalar kind) d (.text d.plain)
  | int {d : Datum} {i : Int} : Scalar.integerOf d = .ok i → Fits (.scalar .int) d (.int i)
  | boolean {d : Datum} {b : Bool} : Scalar.booleanOf d = .ok b →
      Fits (.scalar .boolean) d (.bool b)
  | reference {name : String} {d : Datum} : d.isWritable = true →
      Fits (.object name) d (.text (unquote d.plain))

theorem Fits.kind_eq (h : Fits type d v) : v.kind = type.valueKind := by
  cases h with
  | element hkind | text hkind => rcases hkind with rfl | rfl <;> rfl
  | dateTime | int | boolean | reference => rfl

theorem Fits.ne_null (h : Fits type d v) : v ≠ .null := by
  cases h with
  | element | dateTime | text | int | boolean | reference => simp

theorem coerce_eq_ok_iff : kind.coerce d = .ok v ↔ Fits (.scalar kind) d v := by
  constructor
  · intro h
    cases kind with
    | felt | address =>
      obtain ⟨s, hs, rfl⟩ := map_eq_ok_iff.mp h
      obtain ⟨n, rfl⟩ := Felt.exists_of_canonical hs
      exact .element (by simp) hs (Felt.render_canonical n)
    | dateTime =>
      obtain ⟨s, hs, rfl⟩ := map_eq_ok_iff.mp h
      exact .dateTime hs
    | string | id =>
      obtain ⟨s, hs, rfl⟩ := map_eq_ok_iff.mp h
      obtain ⟨hwritable, rfl⟩ := textOf_eq_ok_iff.mp hs
      exact .text (by simp) hwritable
    | int =>
      obtain ⟨i, hi, rfl⟩ := map_eq_ok_iff.mp h
      exact .int hi
    | boolean =>
      obtain ⟨b, hb, rfl⟩ := map_eq_ok_iff.mp h
      exact .boolean hb
  · intro h
    cases h with
    | element hkind hs _ => rcases hkind with rfl | rfl <;> exact map_eq_ok_iff.mpr ⟨_, hs, rfl⟩
    | dateTime hs => exact map_eq_ok_iff.mpr ⟨_, hs, rfl⟩
    | text hkind hwritable =>
      have htext := textOf_eq_ok_iff.mpr ⟨hwritable, rfl⟩
      rcases hkind with rfl | rfl <;> exact map_eq_ok_iff.mpr ⟨_, htext, rfl⟩
    | int hi => exact map_eq_ok_iff.mpr ⟨_, hi, rfl⟩
    | boolean hb => exact map_eq_ok_iff.mpr ⟨_, hb, rfl⟩

theorem Fits.unique {w : Value} (h : Fits type d v) (h' : Fits type d w) : v = w := by
  cases type with
  | scalar kind =>
    have hv := coerce_eq_ok_iff.mpr h
    rw [coerce_eq_ok_iff.mpr h'] at hv
    exact (Except.ok.inj hv).symm
  | object name =>
    cases h
    cases h'
    rfl

theorem decodeDatum_eq_ok_iff (hd : d ≠ .null) :
    decodeDatum field type d = .ok v ↔ Fits type d v := by
  cases type with
  | scalar kind => rw [decodeDatum_scalar_eq_ok_iff hd, coerce_eq_ok_iff]
  | object name =>
    rw [decodeDatum_object_eq_ok_iff hd]
    constructor
    · rintro ⟨hwritable, rfl⟩
      exact .reference hwritable
    · intro h
      cases h with
      | reference hwritable => exact ⟨hwritable, rfl⟩

/-! ### Columns that are not accepted -/

/-- What is reported for a column that is not null and whose datum its type does not accept. Two
faults are not reported as a mismatch: a timestamp outside the calendar, and a reference without a
text. -/
inductive Refused (field : String) : TypeRef → Datum → Fault → Prop
  | mismatch {kind : Scalar} {d : Datum} : (¬∃ v, Fits (.scalar kind) d v) →
      ¬(kind = .dateTime ∧ Scalar.momentText d = .error (.time .outsideCalendar)) →
      Refused field (.scalar kind) d (.record (.mismatch field kind.name d.kindName))
  | outside {d : Datum} : Scalar.momentText d = .error (.time .outsideCalendar) →
      Refused field (.scalar .dateTime) d (.scalar (.time .outsideCalendar))
  | unwritable {name : String} {d : Datum} : d.isWritable = false →
      Refused field (.object name) d (.scalar .unwritable)

theorem nature_eq_overflow_iff {fault : ScalarFault} :
    fault.nature = .overflow ↔ fault = .time .outsideCalendar := by
  cases fault with
  | time fault => cases fault <;> simp [ScalarFault.nature]
  | booleanElement | notElement | malformedElement | negativeElement | numeral | strayNumeral
    | notMoment | notInteger | notBoolean | unwritable => simp [ScalarFault.nature]

theorem nature_of_coerce {fault : ScalarFault} (h : kind.coerce d = .error fault) :
    fault.nature = .overflow ↔
      kind = .dateTime ∧ Scalar.momentText d = .error (.time .outsideCalendar) := by
  by_cases hdate : kind = .dateTime
  · subst hdate
    rw [map_eq_error_iff.mp h, nature_eq_overflow_iff, Except.error.injEq]
    exact (and_iff_right rfl).symm
  · refine iff_of_false ?_ fun hmoment => hdate hmoment.1
    cases kind with
    | dateTime => exact absurd rfl hdate
    | felt | address => exact Felt.nature_of_canonical (map_eq_error_iff.mp h)
    | int =>
      have h := map_eq_error_iff.mp h
      unfold Scalar.integerOf at h
      split at h
      · cases h
      · exact ScalarFault.nature_of_numeral h
      · cases h
        simp [ScalarFault.nature]
    | boolean =>
      have h := map_eq_error_iff.mp h
      unfold Scalar.booleanOf at h
      split at h
      · cases h
      · cases h
      · cases h
      · cases h
        exact ScalarFault.nature_showing (by simp [ScalarFault.nature])
    | string | id =>
      have h := map_eq_error_iff.mp h
      unfold Scalar.textOf at h
      split_ifs at h
      cases h
      simp [ScalarFault.nature]

theorem decodeDatum_object_eq_error_iff {name : String} {fault : Fault} (hd : d ≠ .null) :
    decodeDatum field (.object name) d = .error fault ↔ Refused field (.object name) d fault := by
  rw [decodeDatum_object hd]
  unfold Scalar.textOf
  split_ifs with hwritable
  · refine iff_of_false nofun ?_
    intro h
    cases h with
    | unwritable hno => exact absurd hwritable (Bool.eq_false_iff.mp hno)
  · constructor
    · intro h
      obtain rfl := Except.error.inj h
      exact .unwritable (Bool.eq_false_iff.mpr hwritable)
    · intro h
      cases h
      rfl

theorem not_refused_of_fits {fault : Fault} (hfits : Fits (.scalar kind) d v) :
    ¬Refused field (.scalar kind) d fault := by
  intro h
  cases h with
  | mismatch hno _ => exact hno ⟨v, hfits⟩
  | outside hmoment =>
    cases hfits with
    | dateTime hs =>
      rw [hs] at hmoment
      cases hmoment
    | element hkind | text hkind => simp at hkind

theorem decodeDatum_scalar_eq_error_iff {fault : Fault} (hd : d ≠ .null) :
    decodeDatum field (.scalar kind) d = .error fault ↔ Refused field (.scalar kind) d fault := by
  rw [decodeDatum_scalar hd]
  cases hcoerce : kind.coerce d with
  | ok v => exact iff_of_false nofun (not_refused_of_fits (coerce_eq_ok_iff.mp hcoerce))
  | error e =>
    have hnature := nature_of_coerce hcoerce
    dsimp only
    split_ifs with hoverflow
    · obtain ⟨rfl, hmoment⟩ := hnature.mp hoverflow
      obtain rfl := nature_eq_overflow_iff.mp hoverflow
      constructor
      · intro h
        obtain rfl := Except.error.inj h
        exact .outside hmoment
      · intro h
        cases h with
        | mismatch _ hinside => exact absurd ⟨rfl, hmoment⟩ hinside
        | outside => rfl
    · constructor
      · intro h
        obtain rfl := Except.error.inj h
        refine .mismatch ?_ fun hout => hoverflow (hnature.mpr hout)
        rintro ⟨v, hv⟩
        rw [coerce_eq_ok_iff.mpr hv] at hcoerce
        cases hcoerce
      · intro h
        cases h with
        | mismatch => rfl
        | outside hmoment => exact absurd (hnature.mpr ⟨rfl, hmoment⟩) hoverflow

theorem decodeDatum_eq_error_iff {fault : Fault} (hd : d ≠ .null) :
    decodeDatum field type d = .error fault ↔ Refused field type d fault := by
  cases type with
  | object name => exact decodeDatum_object_eq_error_iff hd
  | scalar kind => exact decodeDatum_scalar_eq_error_iff hd

/-! ### Rows -/

/-- The row has a column of a field, and the column is null or fits its type. -/
def Accepted (row : Row) (entry : String × TypeRef) : Prop :=
  ∃ d, Assoc.get? row entry.1 = some d ∧ (d = .null ∨ ∃ v, Fits entry.2 d v)

theorem decodeEntry_eq_ok_iff (hd : Assoc.get? row field = some d) :
    decodeEntry absent row (field, type) = .ok v ↔
      d = .null ∧ v = .null ∨ d ≠ .null ∧ Fits type d v := by
  rw [decodeEntry, hd]
  dsimp only
  by_cases hnull : d = .null
  · subst hnull
    rw [decodeDatum_null, Except.ok.injEq]
    simp [eq_comm]
  · rw [decodeDatum_eq_ok_iff hnull]
    simp [hnull]

theorem decodeEntry_eq_error_iff {fault : Fault} (hd : Assoc.get? row field = some d) :
    decodeEntry absent row (field, type) = .error fault ↔
      d ≠ .null ∧ Refused field type d fault := by
  rw [decodeEntry, hd]
  dsimp only
  by_cases hnull : d = .null
  · subst hnull
    rw [decodeDatum_null]
    simp
  · rw [decodeDatum_eq_error_iff hnull]
    simp [hnull]

theorem exists_decodeEntry_iff {entry : String × TypeRef} :
    (∃ v, decodeEntry absent row entry = .ok v) ↔ Accepted row entry := by
  obtain ⟨field, type⟩ := entry
  cases hget : Assoc.get? row field with
  | none => simp [decodeEntry, Accepted, hget]
  | some d =>
    simp only [decodeEntry_eq_ok_iff hget, Accepted, hget, Option.some.injEq, exists_eq_left']
    by_cases hnull : d = .null <;> simp [hnull]

theorem exists_map_decodeEntry_iff {entry : String × TypeRef} :
    (∃ field, (decodeEntry absent row entry).map (fun v => (entry.1, v)) = .ok field) ↔
      Accepted row entry := by
  rw [← exists_decodeEntry_iff]
  cases decodeEntry absent row entry <;> simp [Except.map]

theorem exists_get?_of_mem {name : String} (h : name ∈ Assoc.keys row) :
    ∃ d, Assoc.get? row name = some d := by
  rw [← Option.isSome_iff_exists, Option.isSome_iff_ne_none, ne_eq, Assoc.get?_eq_none_iff]
  exact not_not.mpr h

theorem extract_eq_ok_iff {r : Record} {target : Target} (htarget : target ≠ .kind .null) :
    r.extract field target = .ok v ↔ r.get? field = some v ∧ v ≠ .null ∧ target = .kind v.kind := by
  unfold Record.extract
  cases target with
  | other name => simp
  | kind expected =>
    have hexpected : expected ≠ .null := fun h => htarget (h ▸ rfl)
    cases hget : r.get? field with
    | none => simp
    | some w =>
      dsimp only
      split_ifs with hkind
      · subst hkind
        rw [Except.ok.injEq, Option.some.injEq]
        constructor
        · rintro rfl
          refine ⟨rfl, ?_, rfl⟩
          rintro rfl
          exact hexpected rfl
        · exact fun h => h.1
      · simp only [Option.some.injEq, Target.kind.injEq]
        refine iff_of_false nofun ?_
        rintro ⟨rfl, -, rfl⟩
        exact hkind rfl

theorem value_of_decodeRow {r : Record} (hnodup : (Assoc.keys layout).Nodup)
    (h : decodeRow absent row layout tag = .ok r) (hentry : (field, type) ∈ layout) :
    ∃ d v, Assoc.get? row field = some d ∧ r.get? field = some v ∧
      (d = .null ∧ v = .null ∨ d ≠ .null ∧ Fits type d v) := by
  obtain ⟨v, hv, hget⟩ := decodeEntry_of_decodeRow hnodup h hentry
  obtain ⟨d, hd, -⟩ := exists_decodeEntry_iff.mp ⟨v, hv⟩
  exact ⟨d, v, hd, hget, (decodeEntry_eq_ok_iff hd).mp hv⟩

theorem get?_eq_some_iff_of_decodeRow {r : Record} (hnodup : (Assoc.keys layout).Nodup)
    (h : decodeRow absent row layout tag = .ok r) (hv : v ≠ .null) :
    r.get? field = some v ↔ ∃ type d, (field, type) ∈ layout ∧ Assoc.get? row field = some d ∧
      d ≠ .null ∧ Fits type d v := by
  constructor
  · intro hget
    have hfield : field ∈ Assoc.keys layout := by
      by_contra hno
      have hnone := (get?_of_mapM hnodup (decodeRow_eq_ok_iff.mp h).2).1 field hno
      rw [Record.get?, hnone] at hget
      cases hget
    obtain ⟨⟨name, type⟩, hentry, rfl⟩ := List.mem_map.mp hfield
    obtain ⟨d, w, hd, hget', hvalue⟩ := value_of_decodeRow hnodup h hentry
    obtain rfl : w = v := Option.some.inj (hget'.symm.trans hget)
    obtain ⟨-, rfl⟩ | ⟨hnull, hfits⟩ := hvalue
    · exact absurd rfl hv
    · exact ⟨type, d, hentry, hd, hnull, hfits⟩
  · rintro ⟨type, d, hentry, hd, hnull, hfits⟩
    obtain ⟨d', w, hd', hget, hvalue⟩ := value_of_decodeRow hnodup h hentry
    obtain rfl : d' = d := Option.some.inj (hd'.symm.trans hd)
    obtain ⟨rfl, -⟩ | ⟨-, hfits'⟩ := hvalue
    · exact absurd rfl hnull
    · rw [hfits.unique hfits']
      exact hget

/-- A decoded row has the fields of its layout in order. A field is null exactly if its column is,
and otherwise it holds the value of the column by the type of the field. It is extracted exactly as
what values of its type are, and nothing is extracted as null. Columns outside the layout and the
order of the columns do not count. -/
theorem decodeRow_typed {known : List String} {owner definition : String}
    (hread : Layout.read known owner definition = .ok layout) :
    (∀ r, decodeRow absent row layout tag = .ok r →
      r.tag = tag ∧ r.names = Assoc.keys layout ∧
      (∀ field type, (field, type) ∈ layout → ∃ d v, Assoc.get? row field = some d ∧
        r.get? field = some v ∧ (v = .null ↔ d = .null) ∧
        (d ≠ .null → Fits type d v ∧ v.kind = type.valueKind)) ∧
      ∀ field target v, target ≠ .kind .null → (r.extract field target = .ok v ↔
        ∃ type d, (field, type) ∈ layout ∧ Assoc.get? row field = some d ∧ d ≠ .null ∧
          target = .kind type.valueKind ∧ Fits type d v)) ∧
    ∀ row', (∀ field ∈ Assoc.keys layout, Assoc.get? row' field = Assoc.get? row field) →
      decodeRow absent row' layout tag = decodeRow absent row layout tag := by
  have hnodup := (Layout.readChars_wellFormed (Layout.read_eq_ok_iff.mp hread)).nodup
  constructor
  · intro r hr
    obtain ⟨htag, hfields⟩ := decodeRow_eq_ok_iff.mp hr
    refine ⟨htag, (keys_of_mapM hfields).1, ?_, ?_⟩
    · intro field type hentry
      obtain ⟨d, v, hd, hget, hvalue⟩ := value_of_decodeRow hnodup hr hentry
      refine ⟨d, v, hd, hget, ?_⟩
      obtain ⟨rfl, rfl⟩ | ⟨hnull, hfits⟩ := hvalue
      · exact ⟨by simp, fun h => absurd rfl h⟩
      · exact ⟨iff_of_false hfits.ne_null hnull, fun _ => ⟨hfits, hfits.kind_eq⟩⟩
    · intro field target v htarget
      rw [extract_eq_ok_iff htarget]
      constructor
      · rintro ⟨hget, hv, rfl⟩
        obtain ⟨type, d, hentry, hd, hnull, hfits⟩ :=
          (get?_eq_some_iff_of_decodeRow hnodup hr hv).mp hget
        exact ⟨type, d, hentry, hd, hnull, by rw [hfits.kind_eq], hfits⟩
      · rintro ⟨type, d, hentry, hd, hnull, rfl, hfits⟩
        have hget := (get?_eq_some_iff_of_decodeRow hnodup hr hfits.ne_null).mpr
          ⟨type, d, hentry, hd, hnull, hfits⟩
        exact ⟨hget, hfits.ne_null, by rw [hfits.kind_eq]⟩
  · intro row' hrow'
    rw [decodeRow_eq, decodeRow_eq]
    congr 1
    apply mapM_congr
    intro entry hentry
    rw [decodeEntry, decodeEntry, hrow' entry.1 (List.mem_map_of_mem hentry)]

/-- A row with its columns in another order and one column too many. -/
theorem decodeRow_typed_reference :
    Layout.read ["Position"] "" "hp:u8,at:Position" =
        .ok [("hp", .scalar .int), ("at", .object "Position")] ∧
      (∃ d v, Assoc.get? [("at", Datum.text "'0x1'"), ("hp", .int 3)] "at" = some d ∧
        Record.get? ⟨[("hp", .int 3), ("at", .text "0x1")], some "Player"⟩ "at" = some v ∧
        (v = .null ↔ d = .null) ∧
        (d ≠ .null → Fits (.object "Position") d v ∧ v.kind = .text)) ∧
      Record.extract ⟨[("hp", .int 3), ("at", .text "0x1")], some "Player"⟩ "hp" (.kind .int) =
        .ok (.int 3) ∧
      decodeRow absentColumn [("id", .text "0x2"), ("hp", .int 3), ("at", .text "'0x1'")]
          [("hp", .scalar .int), ("at", .object "Position")] (some "Player") =
        .ok ⟨[("hp", .int 3), ("at", .text "0x1")], some "Player"⟩ := by
  have hread : Layout.read ["Position"] "" "hp:u8,at:Position" =
      .ok [("hp", .scalar .int), ("at", .object "Position")] := by decide
  have hrow : decodeRow absentColumn [("at", .text "'0x1'"), ("hp", .int 3)]
      [("hp", .scalar .int), ("at", .object "Position")] (some "Player") =
      .ok ⟨[("hp", .int 3), ("at", .text "0x1")], some "Player"⟩ := rfl
  obtain ⟨hdecoded, hother⟩ := decodeRow_typed hread
  obtain ⟨-, -, hfields, hextract⟩ := hdecoded _ hrow
  refine ⟨hread, hfields "at" _ (by simp), ?_, (hother _ ?_).trans hrow⟩
  · exact (hextract "hp" (.kind .int) (.int 3) nofun).mpr
      ⟨.scalar .int, .int 3, by simp, rfl, nofun, rfl, .int rfl⟩
  · intro field hfield
    have hcases : field = "hp" ∨ field = "at" := by simpa [Assoc.keys] using hfield
    rcases hcases with rfl | rfl <;> rfl

/-- A row that has the columns of a layout is decoded if its columns fit. Otherwise the first column
that does not is the reason. -/
theorem decodeRow_refused (hrow : ∀ field ∈ Assoc.keys layout, field ∈ Assoc.keys row) :
    ((∃ r, decodeRow absent row layout tag = .ok r) ↔ ∀ entry ∈ layout, Accepted row entry) ∧
    ∀ fault, decodeRow absent row layout tag = .error fault ↔
      ∃ before field type after d, layout = before ++ (field, type) :: after ∧
        (∀ entry ∈ before, Accepted row entry) ∧ Assoc.get? row field = some d ∧ d ≠ .null ∧
        Refused field type d fault := by
  constructor
  · constructor
    · rintro ⟨r, hr⟩ entry hentry
      have hfields := (decodeRow_eq_ok_iff.mp hr).2
      exact exists_map_decodeEntry_iff.mp (exists_of_mapM_eq_ok hfields entry hentry)
    · intro hall
      obtain ⟨fields, hfields⟩ := exists_mapM_eq_ok fun entry hentry =>
        exists_map_decodeEntry_iff.mpr (hall entry hentry)
      exact ⟨⟨fields, tag⟩, decodeRow_eq_ok_iff.mpr ⟨rfl, hfields⟩⟩
  · intro fault
    rw [decodeRow_eq, map_eq_error_iff, mapM_eq_error_iff]
    constructor
    · rintro ⟨before, ⟨field, type⟩, after, rfl, hbefore, hfault⟩
      obtain ⟨d, hd⟩ := exists_get?_of_mem (hrow field (by simp [Assoc.keys]))
      obtain ⟨hnull, hrefused⟩ := (decodeEntry_eq_error_iff hd).mp (map_eq_error_iff.mp hfault)
      exact ⟨before, field, type, after, d, rfl,
        fun entry hentry => exists_map_decodeEntry_iff.mp (hbefore entry hentry), hd, hnull,
        hrefused⟩
    · rintro ⟨before, field, type, after, d, rfl, hbefore, hd, hnull, hrefused⟩
      exact ⟨before, (field, type), after, rfl,
        fun entry hentry => exists_map_decodeEntry_iff.mpr (hbefore entry hentry),
        map_eq_error_iff.mpr ((decodeEntry_eq_error_iff hd).mpr ⟨hnull, hrefused⟩)⟩

/-- A timestamp that is outside the calendar in UTC is not reported as a mismatch. -/
theorem decodeRow_refused_outside :
    (∀ field ∈ Assoc.keys [("x", TypeRef.scalar .dateTime)],
        field ∈ Assoc.keys [("x", Datum.text "0001-01-01T00:00:00+01:00")]) ∧
      decodeRow absentColumn [("x", .text "0001-01-01T00:00:00+01:00")]
          [("x", .scalar .dateTime)] (some "Position") =
        .error (.scalar (.time .outsideCalendar)) := by
  have hrow : ∀ field ∈ Assoc.keys [("x", TypeRef.scalar .dateTime)],
      field ∈ Assoc.keys [("x", Datum.text "0001-01-01T00:00:00+01:00")] := by
    simp [Assoc.keys]
  exact ⟨hrow, ((decodeRow_refused hrow).2 _).mpr
    ⟨[], "x", _, [], _, rfl, by simp, rfl, by simp, .outside rfl⟩⟩

end Storage

end WorldQuery
