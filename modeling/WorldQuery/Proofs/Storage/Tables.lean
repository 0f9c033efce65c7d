import WorldQuery.Proofs.Name.SnakeCase
import WorldQuery.Proofs.Schema.Lookup
import WorldQuery.Proofs.Storage.Provenance

/-!
# Tables of different types

The types of a schema have different names, but a table is called by the name of its type in the
spelling of columns, which some of them share. `tables_of_types` says which types share a table, and
that each of them then reads the rows of the other. Types whose names have no two capitals in a row
have tables of their own.
-/

namespace WorldQuery

open Name Success
open Number.Binary64 (asciiLower)

namespace Name

/-- Type names that differ in case at most, with words that start at the same places. -/
def SpelledAlike (a b : String) : Prop :=
  a.toList.map asciiLower = b.toList.map asciiLower ∧ wordStarts a.toList = wordStarts b.toList

variable {tablePrefix a b : String}

theorem tableName_eq_iff (ha : IsSchemaName (typeName a)) (hb : IsSchemaName (typeName b)) :
    tableName tablePrefix a = tableName tablePrefix b ↔
      SpelledAlike (typeName a) (typeName b) := by
  rw [tableName, tableName, ← String.toList_inj, String.toList_append, String.toList_append,
    List.append_right_inj, snakeCase, snakeCase, String.toList_ofList, String.toList_ofList,
    snakeChars_eq_iff (plain_typeName ha) (plain_typeName hb)]
  rfl

/-- For the store, too, only the same table is the same. -/
theorem sameName_tableName (ha : IsSchemaName (typeName a)) (hb : IsSchemaName (typeName b)) :
    Store.sameName (tableName tablePrefix a) (tableName tablePrefix b) = true ↔
      tableName tablePrefix a = tableName tablePrefix b := by
  rw [Store.sameName_iff, tableName, tableName, ← String.toList_inj, String.toList_append,
    String.toList_append, List.map_append, List.map_append, List.append_right_inj,
    List.append_right_inj, snakeCase, snakeCase, String.toList_ofList, String.toList_ofList,
    map_asciiLower_snakeChars ha.isNamePart, map_asciiLower_snakeChars hb.isNamePart]

theorem SpelledAlike.eq (ha : IsSchemaName (typeName a)) (hb : IsSchemaName (typeName b))
    (hspaced : Spaced (typeName a).toList) (hspaced' : Spaced (typeName b).toList)
    (h : SpelledAlike (typeName a) (typeName b)) : typeName a = typeName b := by
  obtain ⟨hlower, hstarts⟩ := h
  obtain ⟨c, rest, hchars, hc⟩ := exists_capital ha
  obtain ⟨d, others, hchars', hd⟩ := exists_capital hb
  have hplain := plain_typeName ha
  have hplain' := plain_typeName hb
  rw [← String.toList_inj, hchars, hchars']
  rw [hchars] at hplain hspaced hlower hstarts
  rw [hchars'] at hplain' hspaced' hlower hstarts
  obtain ⟨hhead, htail⟩ := List.cons.inj hlower
  obtain rfl := eq_of_asciiLower_eq hhead (hc.trans hd.symm)
  rw [eq_of_wordStarts_eq hplain hplain' hspaced hspaced' htail hstarts]

end Name

namespace Storage

variable {tablePrefix a b : String}

/-- The rows that are read for a name are read for another one, too, as records of its type. -/
def Serves (tablePrefix a b : String) : Prop :=
  ∀ (s : Store) column id layout r, byColumn s tablePrefix column id a layout = .ok (some r) →
    byColumn s tablePrefix column id b layout = .ok (some { r with tag := some (typeName b) })

/-- The rows that are read for two names stand in different tables, in every store. -/
def Apart (tablePrefix a b : String) : Prop :=
  ∀ (s : Store) t t', s.table (Statement.spelled (tableName tablePrefix a)) = .ok t →
    s.table (Statement.spelled (tableName tablePrefix b)) = .ok t' →
      Store.sameName t.name t'.name = false

/-- When the types of two names share their table, and what follows if they do or do not. -/
structure Tables (a b : String) : Prop where
  distinct : typeName a ≠ typeName b
  shared_iff : ∀ tablePrefix, tableName tablePrefix a = tableName tablePrefix b ↔
    SpelledAlike (typeName a) (typeName b)
  serves : SpelledAlike (typeName a) (typeName b) → ∀ tablePrefix, Serves tablePrefix a b
  apart : ¬SpelledAlike (typeName a) (typeName b) → ∀ tablePrefix, Apart tablePrefix a b
  spaced : Spaced (typeName a).toList → Spaced (typeName b).toList →
    ¬SpelledAlike (typeName a) (typeName b)

theorem decodeRow_retag {absent : String → Fault} {row : Row} {layout : Layout}
    {tag : Option String} {r : Record} (h : decodeRow absent row layout tag = .ok r)
    (tag' : Option String) : decodeRow absent row layout tag' = .ok { r with tag := tag' } := by
  obtain ⟨fields, hfields, hr⟩ := bind_eq_ok_iff.mp h
  obtain rfl := pure_eq_ok_iff.mp hr
  exact bind_eq_ok_iff.mpr ⟨fields, hfields, rfl⟩

theorem serves_of_tableName_eq (h : tableName tablePrefix a = tableName tablePrefix b) :
    Serves tablePrefix a b := by
  intro s column id layout r hr
  obtain ⟨found, hfound, hr⟩ := bind_eq_ok_iff.mp hr
  refine bind_eq_ok_iff.mpr ⟨found, h ▸ hfound, ?_⟩
  cases found with
  | none => simpa using pure_eq_ok_iff.mp hr
  | some row =>
    obtain ⟨r', hdecoded, hr⟩ := bind_eq_ok_iff.mp hr
    obtain rfl := Option.some.inj (pure_eq_ok_iff.mp hr)
    exact bind_eq_ok_iff.mpr ⟨_, decodeRow_retag hdecoded _, rfl⟩

theorem apart_of_tableName_ne (ha : IsSchemaName (typeName a)) (hb : IsSchemaName (typeName b))
    (h : ∀ tablePrefix, tableName tablePrefix a ≠ tableName tablePrefix b) :
    Apart tablePrefix a b := by
  intro s t t' ht ht'
  rw [spelled_tableName ha] at ht
  rw [spelled_tableName hb] at ht'
  rw [← Bool.not_eq_true, Store.sameName_iff, Store.sameName_iff.mp (Store.sameName_of_table ht),
    Store.sameName_iff.mp (Store.sameName_of_table ht'), ← Store.sameName_iff,
    sameName_tableName ha hb]
  exact h _

/-- The tables of two types of a schema. -/
theorem tables_of_types {s : Store} {own : String} {schema : Schema}
    (h : Schema.ofStore s own = .ok schema) :
    ∃ storage names, Discovery.ofStore s own = .ok storage ∧
      storage.filterMap ObjectDef.declaredName? = names ∧
        schema.storageTypes = names.map typeName ∧
          ∀ a ∈ names, ∀ b ∈ names, a ≠ b → Tables a b := by
  obtain ⟨storage, found, hstorage, hnames, hshaped⟩ := Schema.ofStore_shaped h
  refine ⟨storage, _, hstorage, hnames, Schema.storageTypes_eq hshaped, ?_⟩
  intro a ha b hb hne
  have hschemaName := hshaped.admissible.isSchemaName a ha
  have hschemaName' := hshaped.admissible.isSchemaName b hb
  have hdistinct : typeName a ≠ typeName b :=
    fun heq => hne (List.inj_on_of_nodup_map hshaped.admissible.nodup ha hb heq)
  have hshared (tablePrefix : String) : tableName tablePrefix a = tableName tablePrefix b ↔
      SpelledAlike (typeName a) (typeName b) := tableName_eq_iff hschemaName hschemaName'
  constructor
  case distinct => exact hdistinct
  case shared_iff => exact hshared
  case serves =>
    intro halike tablePrefix
    exact serves_of_tableName_eq ((hshared tablePrefix).mpr halike)
  case apart =>
    intro halike tablePrefix
    exact apart_of_tableName_ne hschemaName hschemaName' fun tablePrefix =>
      mt (hshared tablePrefix).mp halike
  case spaced =>
    intro hspaced hspaced' halike
    exact hdistinct (halike.eq hschemaName hschemaName' hspaced hspaced')

/-- An acronym in capitals is written like one in small letters: two types with one table. -/
theorem tables_of_acronyms :
    let s := Store.empty.create "components" Component.columns
      [[.text "0x1", .text "HTTPLog", .text "0x9", .text "0x8", .text "0x7", .text "x: Felt",
          .int 1],
        [.text "0x2", .text "HttpLog", .text "0x9", .text "0x8", .text "0x7", .text "x: Felt",
          .int 2]]
    (∃ schema, Schema.ofStore s "storage_" = .ok schema ∧
      schema.storageTypes = ["HTTPLog", "HttpLog"]) ∧
        (∀ tablePrefix, tableName tablePrefix "HTTPLog" = tableName tablePrefix "HttpLog") ∧
          ∀ tablePrefix, Serves tablePrefix "HTTPLog" "HttpLog" := by
  intro s
  have hdeclares : Component.Declares s [("HTTPLog", "x: Felt"), ("HttpLog", "x: Felt")] :=
    ⟨_, Component.rowsInOrder_of_sorted rfl rfl rfl rfl (by decide), rfl⟩
  have hkept : Discovery.kept (Component.history
      [("HTTPLog", "x: Felt"), ("HttpLog", "x: Felt")]) =
        [("HTTPLog", [("x", .scalar .felt)]), ("HttpLog", [("x", .scalar .felt)])] := by
    decide +kernel
  have hadmissible : Schema.Admissible ["HTTPLog", "HttpLog"] := by decide +kernel
  obtain ⟨schema, hschema, -⟩ : ∃ schema, Schema.ofStore s "storage_" = .ok schema ∧
      Schema.Shaped (Discovery.kept (Component.history
        [("HTTPLog", "x: Felt"), ("HttpLog", "x: Felt")])) "storage_" schema :=
    Schema.exists_ofStore_shaped hdeclares (hkept ▸ hadmissible)
  obtain ⟨storage, names, hstorage, rfl, htypes, htables⟩ := tables_of_types hschema
  have hnames : storage.filterMap ObjectDef.declaredName? = ["HTTPLog", "HttpLog"] := by
    rw [Discovery.ofStore_of_declares hdeclares] at hstorage
    obtain rfl := Except.ok.inj hstorage
    rw [Discovery.filterMap_declaredName?_objects]
    decide +kernel
  rw [hnames] at htypes htables
  have htable := htables "HTTPLog" (by decide) "HttpLog" (by decide) (by decide)
  have halike : SpelledAlike (typeName "HTTPLog") (typeName "HttpLog") := by
    constructor <;> decide +kernel
  refine ⟨⟨schema, hschema, htypes.trans (by decide +kernel)⟩, ?_, htable.serves halike⟩
  exact fun tablePrefix => (htable.shared_iff tablePrefix).mpr halike

end Storage

end WorldQuery
