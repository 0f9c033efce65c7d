import WorldQuery.Proofs.Name.CamelCase
import WorldQuery.Proofs.Schema.Assembly
import WorldQuery.Proofs.Storage.Provenance
import WorldQuery.Query.Resolution

/-!
# Spellings of a declared name

A record type goes by the name that was declared for it, by its type name and by its field name. As
long as the type name is one of the schema language, it does not matter which of them is named
again: `spellings_interchangeable` says that they have the same type, field and table, that the same
rows are read for them, and that there are no further spellings to come by.
-/

namespace WorldQuery

open Number.Binary64 (asciiLower)
open Text Text.Case

namespace Name

variable {a b name : String}

/-- A declared name and what comes of naming it, once or over and over. -/
inductive Spelling (name : String) : String → Prop
  | declared : Spelling name name
  | type {a : String} : Spelling name a → Spelling name (typeName a)
  | field {a : String} : Spelling name a → Spelling name (fieldName a)

theorem Plain.lowered {c : Char} {rest : List Char} (h : Plain (c :: rest)) :
    Plain (asciiLower c :: rest) := by
  have hpart := h.isNamePart c List.mem_cons_self
  have hne : c ≠ '_' := fun heq => h.no_underscore (heq ▸ List.mem_cons_self)
  constructor
  · exact List.forall_mem_cons.mpr ⟨isNamePart_asciiLower hpart, h.tail.isNamePart⟩
  · intro hmem
    rcases List.mem_cons.mp hmem with heq | hmem
    · exact asciiLower_ne_underscore hpart hne heq.symm
    · exact h.tail.no_underscore hmem

theorem exists_initial (h : IsSchemaName (typeName name)) :
    ∃ c rest, isUpper c = true ∧ Plain (c :: rest) ∧ typeName name = String.ofList (c :: rest) ∧
      fieldName name = String.ofList (asciiLower c :: rest) := by
  obtain ⟨c, rest, hchars, hc⟩ := exists_capital h
  have hplain : Plain (c :: rest) := hchars ▸ plain_typeName h
  have hlower : lower [c] = [asciiLower c] :=
    lowerAfter_of_isNamePart (by simpa using hplain.isNamePart c List.mem_cons_self) []
  refine ⟨c, rest, hc, hplain, ?_, ?_⟩
  · rw [← hchars, String.ofList_toList]
  · rw [typeName, String.toList_ofList] at hchars
    rw [fieldName, fieldChars, hchars, uncapitalize, hlower]
    rfl

/-- The type name can be had from the field name: the small letter in front has one capital, and it
is the capital that it was made from. -/
theorem typeName_fieldName (h : IsSchemaName (typeName name)) :
    typeName (fieldName name) = typeName name := by
  obtain ⟨c, rest, hc, hplain, htype, hfield⟩ := exists_initial h
  obtain ⟨-, himage, -, -⟩ := of_isUpper hc
  have hlowered : Plain (asciiLower c :: rest) := hplain.lowered
  calc typeName (fieldName name)
    _ = String.ofList (typeChars (asciiLower c :: rest)) := by
      rw [hfield, typeName, String.toList_ofList]
    _ = String.ofList (upperImage (asciiLower c) ++ rest) := by
      rw [typeChars_of_isNamePart hlowered.isNamePart hlowered.no_underscore]
    _ = typeName name := by
      rw [himage, htype]
      rfl

/-- Other scripts have capitals that are not the capitals of their small letters. -/
example : typeName (fieldName "\u2126") ≠ typeName "\u2126" := by decide +kernel

theorem fieldName_congr (h : typeName a = typeName b) : fieldName a = fieldName b := by
  have hchars : typeChars a.toList = typeChars b.toList := String.ofList_injective h
  rw [fieldName, fieldName, fieldChars, fieldChars, hchars]

theorem Spelling.typeName_eq (h : IsSchemaName (typeName name)) (ha : Spelling name a) :
    typeName a = typeName name := by
  induction ha with
  | declared => rfl
  | @type a _ ih =>
    calc typeName (typeName a)
      _ = typeName (typeName name) := congrArg typeName ih
      _ = typeName name := typeName_typeName h
  | @field a _ ih =>
    have hschema : IsSchemaName (typeName a) := by
      rw [ih]
      exact h
    exact (typeName_fieldName hschema).trans ih

/-- After the first naming there are no new spellings. -/
theorem spelling_iff (h : IsSchemaName (typeName name)) :
    Spelling name a ↔ a = name ∨ a = typeName name ∨ a = fieldName name := by
  constructor
  · intro ha
    cases ha with
    | declared => exact Or.inl rfl
    | type ha => exact Or.inr (Or.inl (ha.typeName_eq h))
    | field ha => exact Or.inr (Or.inr (fieldName_congr (ha.typeName_eq h)))
  · rintro (rfl | rfl | rfl)
    · exact .declared
    · exact .type .declared
    · exact .field .declared

end Name

namespace Storage

open Name

variable {a b name : String}

/-- Names that cannot be told apart by what they name, by the records that are fetched for them, or
by the references that have them as their target. -/
structure Interchangeable (a b : String) : Prop where
  typeName_eq : typeName a = typeName b
  fieldName_eq : fieldName a = fieldName b
  tableName_eq : ∀ tablePrefix, tableName tablePrefix a = tableName tablePrefix b
  byColumn_eq : ∀ s tablePrefix column id layout,
    byColumn s tablePrefix column id a layout = byColumn s tablePrefix column id b layout
  tag_eq : ∀ s tablePrefix column id layout r,
    byColumn s tablePrefix column id a layout = .ok (some r) → r.tag = some (typeName b)
  follow_eq : ∀ s field known tablePrefix owner,
    Query.Question.follow s field a known tablePrefix owner =
      Query.Question.follow s field b known tablePrefix owner

/-- Tables, rows and references depend on the type name only. -/
theorem Interchangeable.of_typeName_eq (h : typeName a = typeName b) : Interchangeable a b where
  typeName_eq := h
  fieldName_eq := fieldName_congr h
  tableName_eq tablePrefix := by rw [tableName, tableName, h]
  byColumn_eq s tablePrefix column id layout := by simp only [byColumn, tableName, h]
  tag_eq s tablePrefix column id layout r hr := by rw [byColumn_tag hr, h]
  follow_eq s field known tablePrefix owner := by simp only [Query.Question.follow, h]

/-- A declared name may be exchanged for its type name or its field name where types, tables, rows
and references are named, and naming these again gives one of the three. -/
theorem spellings_interchangeable (h : IsSchemaName (typeName name)) :
    Interchangeable (typeName name) name ∧ Interchangeable (fieldName name) name ∧
      ∀ a, Spelling name a ↔ a = name ∨ a = typeName name ∨ a = fieldName name := by
  refine ⟨?_, ?_, fun a => spelling_iff h⟩
  · exact .of_typeName_eq (typeName_typeName h)
  · exact .of_typeName_eq (typeName_fieldName h)

/-- Separators of three kinds and a letter whose capital is two: the row is found by every
spelling. -/
theorem spellings_of_capital_pair :
    let name := "-hit__points\u3000\u00dfum"
    let s := Store.empty.create "storage_hit_points_s_sum" ["component_id", "x"]
      [[.text "0x1", .int 5]]
    IsSchemaName (typeName name) ∧ typeName name = "HitPointsSSum" ∧
      fieldName name = "hitPointsSSum" ∧ Interchangeable "HitPointsSSum" name ∧
        Interchangeable "hitPointsSSum" name ∧
          ∀ a, Spelling name a →
            (byColumn s "storage_" ownerColumn "0x1" a [("x", .scalar .felt)]).toOption =
              some (some ⟨[("x", .text "0x5")], some "HitPointsSSum"⟩) := by
  intro name s
  have htype : typeName name = "HitPointsSSum" := by decide +kernel
  have hfield : fieldName name = "hitPointsSSum" := by decide +kernel
  have hschema : IsSchemaName (typeName name) := by decide +kernel
  have hrow : (byColumn s "storage_" ownerColumn "0x1" name [("x", .scalar .felt)]).toOption =
      some (some ⟨[("x", .text "0x5")], some "HitPointsSSum"⟩) := by
    decide +kernel
  obtain ⟨hbyType, hbyField, hspellings⟩ := spellings_interchangeable hschema
  rw [htype] at hbyType hspellings
  rw [hfield] at hbyField hspellings
  refine ⟨hschema, htype, hfield, hbyType, hbyField, ?_⟩
  intro a ha
  rcases (hspellings a).mp ha with rfl | rfl | rfl
  · exact hrow
  · rw [hbyType.byColumn_eq, hrow]
  · rw [hbyField.byColumn_eq, hrow]

end Storage

end WorldQuery
