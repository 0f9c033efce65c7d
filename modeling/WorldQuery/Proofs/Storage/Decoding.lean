import WorldQuery.Proofs.Layout.Reading
import WorldQuery.Proofs.Storage.Provenance

/-!
# What a storage record holds

A row is fetched with the columns of a layout and decoded column by column: `byColumn_of_prepared`
says what is fetched once the statement names a table, `decodeRow_fetched` what is decoded if the
table has all these columns. A statement that does not name the table as it is has a fault, or reads
another table: `byColumn_misnamed`.
-/

namespace WorldQuery

open Name Success

/-- The datum that a quoted name stands for in a row. -/
def Table.datum (t : Table) (row : StoredRow) (column : String) : Datum :=
  (t.quotedCell row column).2

/-- A table of a store that has every column of a layout. No store has a table in which two columns
differ in case only, or one with more columns than a statement may select. -/
structure Table.Covers (t : Table) (layout : Layout) : Prop where
  distinct : t.columns.Pairwise fun a b => Store.sameName a b = false
  limited : t.columns.length ≤ Statement.columnLimit
  declared : ∀ field ∈ Assoc.keys layout, field ∈ t.columns

namespace Table.Covers

variable {t : Table} {layout : Layout} {row : StoredRow}

theorem quotedCell_eq (h : t.Covers layout) {field : String} (hfield : field ∈ Assoc.keys layout) :
    t.quotedCell row field = (field, t.datum row field) := by
  obtain ⟨i, hi, rfl⟩ := List.getElem_of_mem (h.declared field hfield)
  have hposition : t.position? t.columns[i] = some i := by
    refine List.findIdx?_eq_some_iff_getElem.mpr ⟨hi, beq_iff_eq.mpr rfl, fun j hj => ?_⟩
    have hdistinct := List.pairwise_iff_getElem.mp h.distinct j i (by omega) hi hj
    simpa using hdistinct
  have hmeaning : t.quotedMeaning t.columns[i] = .column i := by
    rw [Table.quotedMeaning, hposition]
  have hcell : t.quotedCell row t.columns[i] = (t.columns[i], Table.cell row i) := by
    rw [Table.quotedCell, hmeaning]
    simp [List.getD_eq_getElem?_getD, List.getElem?_eq_getElem hi]
  rw [Table.datum, hcell]

theorem get?_fetched (h : t.Covers layout) (hnodup : (Assoc.keys layout).Nodup) {field : String}
    (hfield : field ∈ Assoc.keys layout) :
    Assoc.get? ((Assoc.keys layout).map (t.quotedCell row)) field = some (t.datum row field) := by
  have hcells : (Assoc.keys layout).map (t.quotedCell row) =
      (Assoc.keys layout).map fun field => (field, t.datum row field) :=
    List.map_congr_left fun field hfield => h.quotedCell_eq hfield
  rw [hcells]
  refine Assoc.get?_of_mem ?_ (List.mem_map_of_mem hfield)
  simpa [Assoc.keys, Function.comp_def] using hnodup

theorem length_le (h : t.Covers layout) (hnodup : (Assoc.keys layout).Nodup) :
    (Assoc.keys layout).length ≤ Statement.columnLimit :=
  (List.subperm_of_subset hnodup h.declared).length_le.trans h.limited

end Table.Covers

namespace Storage

variable {t : Table} {layout : Layout} {row : StoredRow} {absent : String → Fault}
  {tag : Option String}

/-! ### Decoding -/

theorem coerce_ne_null {kind : Scalar} {d : Datum} {v : Value} (h : kind.coerce d = .ok v) :
    v ≠ .null := by
  cases kind with
  | address | felt | dateTime | string | id | int | boolean =>
    obtain ⟨a, -, rfl⟩ := map_eq_ok_iff.mp h
    simp

theorem textOf_eq_ok_iff {d : Datum} {s : String} :
    Scalar.textOf d = .ok s ↔ d.isWritable = true ∧ d.plain = s := by
  unfold Scalar.textOf
  split_ifs with h <;> simp [h]

theorem decodeDatum_null (field : String) (type : TypeRef) :
    decodeDatum field type .null = .ok .null := rfl

theorem decodeDatum_object {field name : String} {d : Datum} (hd : d ≠ .null) :
    decodeDatum field (.object name) d =
      ((Scalar.textOf d).map fun s => .text (unquote s)).mapError .scalar := by
  cases d with
  | null => exact absurd rfl hd
  | bool | int | real | text | illFormed | blob | moment | list | object => rfl

theorem decodeDatum_scalar {field : String} {kind : Scalar} {d : Datum} (hd : d ≠ .null) :
    decodeDatum field (.scalar kind) d =
      match kind.coerce d with
      | .ok v => .ok v
      | .error fault =>
        if fault.nature = .overflow then .error (.scalar fault)
        else .error (.record (.mismatch field kind.name d.kindName)) := by
  cases d with
  | null => exact absurd rfl hd
  | bool | int | real | text | illFormed | blob | moment | list | object => rfl

theorem decodeDatum_object_eq_ok_iff {field name : String} {d : Datum} {v : Value}
    (hd : d ≠ .null) :
    decodeDatum field (.object name) d = .ok v ↔
      d.isWritable = true ∧ v = .text (unquote d.plain) := by
  rw [decodeDatum_object hd, mapError_eq_ok_iff, map_eq_ok_iff]
  constructor
  · rintro ⟨s, hs, rfl⟩
    obtain ⟨hwritable, rfl⟩ := textOf_eq_ok_iff.mp hs
    exact ⟨hwritable, rfl⟩
  · rintro ⟨hwritable, rfl⟩
    exact ⟨d.plain, textOf_eq_ok_iff.mpr ⟨hwritable, rfl⟩, rfl⟩

theorem decodeDatum_scalar_eq_ok_iff {field : String} {kind : Scalar} {d : Datum} {v : Value}
    (hd : d ≠ .null) : decodeDatum field (.scalar kind) d = .ok v ↔ kind.coerce d = .ok v := by
  rw [decodeDatum_scalar hd]
  cases kind.coerce d with
  | ok w => simp
  | error fault =>
    dsimp only
    split_ifs <;> simp

theorem decodeDatum_ne_null {field : String} {type : TypeRef} {d : Datum} {v : Value}
    (hd : d ≠ .null) (h : decodeDatum field type d = .ok v) : v ≠ .null := by
  cases type with
  | object name =>
    obtain ⟨-, rfl⟩ := (decodeDatum_object_eq_ok_iff hd).mp h
    simp
  | scalar kind => exact coerce_ne_null ((decodeDatum_scalar_eq_ok_iff hd).mp h)

theorem coerced_of_decodeDatum {field : String} {kind : Scalar} {d : Datum} {v : Value}
    (h : decodeDatum field (.scalar kind) d = .ok v) : v = .null ∨ ∃ d, kind.coerce d = .ok v := by
  by_cases hd : d = .null
  · subst hd
    exact Or.inl (Except.ok.inj h).symm
  · exact Or.inr ⟨d, (decodeDatum_scalar_eq_ok_iff hd).mp h⟩

/-- How the datum of one field is decoded in a row that has it. -/
def decodeField (t : Table) (row : StoredRow) (entry : String × TypeRef) :
    Except Fault (String × Value) :=
  (decodeDatum entry.1 entry.2 (t.datum row entry.1)).map fun v => (entry.1, v)

theorem decodeRow_fetched (h : t.Covers layout) (hnodup : (Assoc.keys layout).Nodup) :
    decodeRow absent ((Assoc.keys layout).map (t.quotedCell row)) layout tag =
      (layout.mapM (decodeField t row)).map fun fields => ⟨fields, tag⟩ := by
  unfold decodeRow
  rw [mapM_congr (g := decodeField t row)]
  · cases layout.mapM (decodeField t row) <;> rfl
  · intro entry hentry
    have hget : Assoc.get? ((Assoc.keys layout).map (t.quotedCell row)) entry.1 =
        some (t.datum row entry.1) := h.get?_fetched hnodup (List.mem_map_of_mem hentry)
    simp only [hget]
    rfl

theorem keys_of_mapM {read : String × TypeRef → Except Fault Value} {fields : List (String × Value)}
    (h : (layout.mapM fun entry => (read entry).map fun v => (entry.1, v)) = .ok fields) :
    Assoc.keys fields = Assoc.keys layout ∧ List.Forall₂
      (fun entry field => ∃ v, read entry = .ok v ∧ field = (entry.1, v)) layout fields := by
  have hall : List.Forall₂ (fun entry field => ∃ v, read entry = .ok v ∧ field = (entry.1, v))
      layout fields := by
    refine (mapM_eq_ok_iff.mp h).imp fun entry field hfield => ?_
    obtain ⟨v, hv, heq⟩ := map_eq_ok_iff.mp hfield
    exact ⟨v, hv, heq.symm⟩
  refine ⟨?_, hall⟩
  clear h
  induction hall with
  | nil => rfl
  | cons hfirst _ ih =>
    obtain ⟨v, -, rfl⟩ := hfirst
    simp only [Assoc.keys, List.map_cons] at ih ⊢
    rw [ih]

/-- What is read field by field has the fields of the layout and no others. -/
theorem get?_of_mapM (hnodup : (Assoc.keys layout).Nodup)
    {read : String × TypeRef → Except Fault Value} {fields : List (String × Value)}
    (h : (layout.mapM fun entry => (read entry).map fun v => (entry.1, v)) = .ok fields) :
    (∀ field ∉ Assoc.keys layout, Assoc.get? fields field = none) ∧
      ∀ entry ∈ layout, ∃ v, read entry = .ok v ∧ Assoc.get? fields entry.1 = some v := by
  obtain ⟨hkeys, hall⟩ := keys_of_mapM h
  refine ⟨fun field hfield => Assoc.get?_eq_none_iff.mpr (hkeys ▸ hfield), fun entry hentry => ?_⟩
  obtain ⟨k, hk, rfl⟩ := List.getElem_of_mem hentry
  have hk' : k < fields.length := hall.length_eq ▸ hk
  obtain ⟨v, hv, heq⟩ := hall.get hk hk'
  exact ⟨v, hv, Assoc.get?_of_mem (hkeys ▸ hnodup) (heq ▸ List.getElem_mem hk')⟩

theorem get?_of_decoded (hnodup : (Assoc.keys layout).Nodup) {fields : List (String × Value)}
    (h : layout.mapM (decodeField t row) = .ok fields) :
    (∀ field ∉ Assoc.keys layout, Assoc.get? fields field = none) ∧
      ∀ entry ∈ layout, ∃ v, decodeDatum entry.1 entry.2 (t.datum row entry.1) = .ok v ∧
        Assoc.get? fields entry.1 = some v :=
  get?_of_mapM hnodup h

def decodeEntry (absent : String → Fault) (data : Row) (entry : String × TypeRef) :
    Except Fault Value :=
  match Assoc.get? data entry.1 with
  | none => .error (absent entry.1)
  | some d => decodeDatum entry.1 entry.2 d

theorem decodeRow_eq (absent : String → Fault) (data : Row) (layout : Layout)
    (tag : Option String) :
    decodeRow absent data layout tag =
      (layout.mapM fun entry => (decodeEntry absent data entry).map fun v => (entry.1, v)).map
        fun fields => ⟨fields, tag⟩ := by
  unfold decodeRow
  rw [mapM_congr (g := fun entry => (decodeEntry absent data entry).map fun v => (entry.1, v))]
  · cases layout.mapM fun entry => (decodeEntry absent data entry).map fun v => (entry.1, v) <;> rfl
  · intro entry _
    unfold decodeEntry
    cases hget : Assoc.get? data entry.1 with
    | none => simp only [hget]; rfl
    | some d => simp only [hget]

theorem decodeRow_eq_ok_iff {data : Row} {r : Record} :
    decodeRow absent data layout tag = .ok r ↔ r.tag = tag ∧
      (layout.mapM fun entry => (decodeEntry absent data entry).map fun v => (entry.1, v)) =
        .ok r.fields := by
  rw [decodeRow_eq, map_eq_ok_iff]
  constructor
  · rintro ⟨fields, hfields, rfl⟩
    exact ⟨rfl, hfields⟩
  · rintro ⟨rfl, hfields⟩
    exact ⟨r.fields, hfields, rfl⟩

theorem decodeEntry_of_decodeRow {data : Row} {r : Record} (hnodup : (Assoc.keys layout).Nodup)
    (h : decodeRow absent data layout tag = .ok r) {entry : String × TypeRef}
    (hentry : entry ∈ layout) :
    ∃ v, decodeEntry absent data entry = .ok v ∧ r.get? entry.1 = some v :=
  (get?_of_mapM hnodup (decodeRow_eq_ok_iff.mp h).2).2 entry hentry

theorem get?_of_decodeRow {data : Row} {r : Record} (hnodup : (Assoc.keys layout).Nodup)
    (h : decodeRow absent data layout tag = .ok r) {entry : String × TypeRef}
    (hentry : entry ∈ layout) {d : Datum} (hd : Assoc.get? data entry.1 = some d) :
    ∃ v, decodeDatum entry.1 entry.2 d = .ok v ∧ r.get? entry.1 = some v := by
  obtain ⟨v, hv, hget⟩ := decodeEntry_of_decodeRow hnodup h hentry
  rw [decodeEntry, hd] at hv
  exact ⟨v, hv, hget⟩

theorem coerced_of_decodeRow {data : Row} {r : Record} (hnodup : (Assoc.keys layout).Nodup)
    (h : decodeRow absent data layout tag = .ok r) {field : String} {kind : Scalar}
    (hentry : (field, .scalar kind) ∈ layout) :
    ∃ v, r.get? field = some v ∧ (v = .null ∨ ∃ d, kind.coerce d = .ok v) := by
  obtain ⟨v, hv, hget⟩ := decodeEntry_of_decodeRow hnodup h hentry
  refine ⟨v, hget, ?_⟩
  unfold decodeEntry at hv
  split at hv
  · cases hv
  · exact coerced_of_decodeDatum hv

/-! ### Fetching -/

/-- The rows of a table that belong to an id. -/
def ownedBy (t : Table) (id : String) : List StoredRow :=
  t.rows.filter fun row => t.holds row ownerColumn (.text id)

variable {s : Store} {tablePrefix id name : String}

/-- What a fetch gives once its statement names a table of the store. -/
theorem byColumn_of_prepared {table : String}
    (hprepared : Statement.Prepared.of (Assoc.keys layout) (tableName tablePrefix name)
      ownerColumn = .ok ⟨table, ownerColumn, Statement.bindings⟩)
    (ht : s.table table = .ok t) (hlimit : (Assoc.keys layout).length ≤ Statement.columnLimit)
    (hid : unquote id = id) :
    byColumn s tablePrefix ownerColumn id name layout =
      match ownedBy t id with
      | [] => .ok none
      | row :: _ => (decodeRow absentColumn ((Assoc.keys layout).map (t.quotedCell row)) layout
          (some (typeName name))).map some := by
  have hreachable : s.reachable = true := by
    by_contra hclosed
    simp [Store.table, hclosed] at ht
  have hfetch := Statement.fetch_eq_ok_iff.mpr
    ⟨_, t, hreachable, hprepared, ht, hlimit, rfl, Eq.refl (t.firstWhere _ _ (unquote id))⟩
  unfold byColumn
  dsimp only
  rw [hfetch, hid, Table.firstWhere, ← List.head?_filter]
  change (Except.mapError Fault.store (.ok (Option.map _ (ownedBy t id).head?)) >>= _) = _
  cases ownedBy t id with
  | nil => rfl
  | cons row others =>
    change (decodeRow absentColumn _ layout (some (typeName name)) >>= fun r => pure (some r)) = _
    dsimp only
    cases decodeRow absentColumn ((Assoc.keys layout).map (t.quotedCell row)) layout
      (some (typeName name)) <;> rfl

theorem plainText_of_isNamePart {text : List Char}
    (h : ∀ c ∈ text, Layout.isNamePart c = true) : Statement.PlainText text := by
  intro c hc
  have hplain : decide (c ≠ ':' ∧ c ≠ '%' ∧ c ≠ '[' ∧ c ≠ '\x00') = true :=
    of_isNamePart (p := fun c => decide (c ≠ ':' ∧ c ≠ '%' ∧ c ≠ '[' ∧ c ≠ '\x00'))
      (by decide +kernel) (h c hc)
  exact of_decide_eq_true hplain

theorem faithful_of_plain_prefix {known : List String} (hwf : Layout.WellFormed known layout)
    (hname : IsSchemaName (typeName name)) (hplain : Statement.PlainText tablePrefix.toList) :
    Statement.Faithful (Assoc.keys layout) (tableName tablePrefix name) ownerColumn := by
  refine Statement.faithful_of_plain (fun field hfield => ?_) (fun c hc => ?_) ?_
  · exact plainText_of_isNamePart
      (isSchemaName_of_isFieldName (hwf.isFieldName field hfield)).isNamePart
  · rw [tableName, String.toList_append] at hc
    rcases List.mem_append.mp hc with hc | hc
    · exact hplain c hc
    · rw [snakeCase, String.toList_ofList] at hc
      exact plainText_of_isNamePart (fun d hd => isNamePart_of_mem_snakeChars hname hd) c hc
  · decide

/-- A statement that does not name the table as it is has a fault or names another one. -/
theorem byColumn_misnamed (hid : unquote id = id)
    (hmisnamed : ¬Statement.Faithful (Assoc.keys layout) (tableName tablePrefix name) ownerColumn) :
    (∃ fault, byColumn s tablePrefix ownerColumn id name layout = .error (.store fault)) ∨
      Statement.spelled (tableName tablePrefix name) ≠ tableName tablePrefix name ∧
      ∃ t, s.table (Statement.spelled (tableName tablePrefix name)) = .ok t ∧
        (ownedBy t id = [] → byColumn s tablePrefix ownerColumn id name layout = .ok none) := by
  cases hfetch : Statement.fetch s (Assoc.keys layout) (tableName tablePrefix name) ownerColumn
    (unquote id) with
  | error fault =>
    refine Or.inl ⟨fault, ?_⟩
    unfold byColumn
    dsimp only
    rw [hfetch]
    rfl
  | ok found =>
    obtain ⟨prepared, t, -, hprepared, ht, hlimit, hsupplied, -⟩ :=
      Statement.fetch_eq_ok_iff.mp hfetch
    obtain ⟨htable, hcolumn⟩ := Statement.Prepared.of_eq_ok hprepared hsupplied
    rw [spelled_ownerColumn] at hcolumn
    obtain ⟨table, column, supplied⟩ := prepared
    obtain rfl : table = _ := htable
    obtain rfl : column = _ := hcolumn
    obtain rfl : supplied = _ := hsupplied
    have hother : Statement.spelled (tableName tablePrefix name) ≠ tableName tablePrefix name := by
      intro hsame
      rw [hsame] at hprepared
      exact hmisnamed hprepared
    refine Or.inr ⟨hother, t, ht, fun hnone => ?_⟩
    rw [byColumn_of_prepared hprepared ht hlimit hid, hnone]

end Storage

end WorldQuery
