import WorldQuery.Proofs.Layout.Grammar

/-!
# Writing layouts

A layout is written as its `name:type` pairs between commas, with blanks at will around the commas
and around the colon of each pair. What a definition stands for is read back from such a text, since
the name and the type of each of its fields have no comma and no blanks at their ends: that is
`Writable`. A type may have colons of its own, which stay as they are.
-/

namespace WorldQuery.Layout

open Text

abbrev Blanks := {text : List Char // Blank text}

theorem Blanks.not_mem (blanks : Blanks) {c : Char} (h : isBlank c = false) : c ∉ blanks.1 := by
  intro hc
  rw [blanks.2 c hc] at h
  cases h

/-- The blanks around the name and around the type of a pair. -/
structure Padding where
  beforeName : Blanks
  afterName : Blanks
  beforeType : Blanks
  afterType : Blanks

def Padding.none : Padding := ⟨⟨[], by simp [Blank]⟩, ⟨[], by simp [Blank]⟩,
  ⟨[], by simp [Blank]⟩, ⟨[], by simp [Blank]⟩⟩

def writePair (pad : Padding) (field : String × TypeRef) : List Char :=
  (pad.beforeName.1 ++ field.1.toList ++ pad.afterName.1) ++ ':' ::
    (pad.beforeType.1 ++ field.2.name.toList ++ pad.afterType.1)

/-- A layout as a definition, with blanks for each pair. -/
def writePadded (pad : ℕ → Padding) (layout : Layout) : List Char :=
  [','].intercalate (layout.mapIdx fun position field => writePair (pad position) field)

def write (layout : Layout) : List Char :=
  [','].intercalate (layout.map fun field => field.1.toList ++ ':' :: field.2.name.toList)

/-- A field whose pair can be read back. -/
structure Writable (known : List String) (field : String × TypeRef) : Prop where
  name : FieldName field.1.toList
  means : Means known field.2.name field.2
  trimmed : Trimmed field.2.name.toList
  no_comma : ',' ∉ field.2.name.toList

section Fields

variable {known : List String} {pair : List Char} {field : String × TypeRef}

theorem FieldName.not_mem {name : List Char} (h : FieldName name) {c : Char}
    (hc : isNamePart c = false) : c ∉ name := by
  intro hmem
  rw [h.part_of_mem c hmem] at hc
  cases hc

theorem FieldName.trimmed {name : List Char} (h : FieldName name) : Trimmed name :=
  .of_forall_not fun c hc => isBlank_of_isNamePart (h.part_of_mem c hc)

theorem isNamePart_of_mem_name (kind : Scalar) : ∀ c ∈ kind.name.toList, isNamePart c = true := by
  have hall : kind.name.toList.all isNamePart = true := by cases kind <;> decide
  exact List.all_eq_true.mp hall

theorem Writable.scalar {name : String} (hname : FieldName name.toList) (kind : Scalar) :
    Writable known (name, .scalar kind) where
  name := hname
  means := .scalar (Or.inl rfl)
  trimmed := .of_forall_not fun c hc => isBlank_of_isNamePart (isNamePart_of_mem_name kind c hc)
  no_comma := fun hc => absurd (isNamePart_of_mem_name kind ',' hc) (by decide)

theorem Writable.of_pairOf (h : PairOf known pair field) (hcomma : ',' ∉ pair) :
    Writable known field := by
  obtain ⟨name, type⟩ := field
  obtain ⟨word, ⟨left, right, rfl, -, -, hright⟩, hname, hmeans⟩ := h
  cases hmeans with
  | scalar hword => exact .scalar hname _
  | record hknown hfree =>
    obtain ⟨before, after, rfl, -, -, htrimmed⟩ := hright
    refine ⟨hname, .record hknown hfree, htrimmed, fun hmem => hcomma ?_⟩
    simp [show ',' ∈ word.toList from hmem]

theorem Writable.pairOf (h : Writable known field) (pad : Padding) :
    PairOf known (writePair pad field) field := by
  refine ⟨field.2.name, ⟨_, _, rfl, ?_, ?_, ?_⟩, h.name, h.means⟩
  · have hcolon : isBlank ':' = false := by decide
    have hname : ':' ∉ field.1.toList := h.name.not_mem (by decide)
    simp [pad.beforeName.not_mem hcolon, pad.afterName.not_mem hcolon, hname]
  · exact ⟨_, _, rfl, pad.beforeName.2, pad.afterName.2, h.name.trimmed⟩
  · exact ⟨_, _, rfl, pad.beforeType.2, pad.afterType.2, h.trimmed⟩

theorem Writable.comma_not_mem (h : Writable known field) (pad : Padding) :
    ',' ∉ writePair pad field := by
  have hcomma : isBlank ',' = false := by decide
  have hname : ',' ∉ field.1.toList := h.name.not_mem (by decide)
  simp [writePair, pad.beforeName.not_mem hcomma, pad.afterName.not_mem hcomma,
    pad.beforeType.not_mem hcomma, pad.afterType.not_mem hcomma, hname, h.no_comma]

end Fields

section Texts

variable {known : List String} {layout : Layout} {text : List Char} {pairs : List (List Char)}

theorem writable_of_forall₂ (hall : List.Forall₂ (PairOf known) pairs layout)
    (hcomma : ∀ pair ∈ pairs, ',' ∉ pair) : ∀ field ∈ layout, Writable known field := by
  induction hall with
  | nil => simp
  | cons hpair _ ih =>
    obtain ⟨hfirst, hrest⟩ := List.forall_mem_cons.mp hcomma
    exact List.forall_mem_cons.mpr ⟨.of_pairOf hpair hfirst, ih hrest⟩

theorem forall₂_writePair (h : ∀ field ∈ layout, Writable known field) (pad : ℕ → Padding) :
    List.Forall₂ (PairOf known)
      (layout.mapIdx fun position field => writePair (pad position) field) layout := by
  induction layout generalizing pad with
  | nil => exact .nil
  | cons field rest ih =>
    obtain ⟨hfirst, hrest⟩ := List.forall_mem_cons.mp h
    rw [List.mapIdx_cons]
    exact .cons (hfirst.pairOf _) (ih hrest _)

theorem Denotes.writePadded (h : Denotes known text layout) (pad : ℕ → Padding) :
    Denotes known (writePadded pad layout) layout := by
  obtain ⟨pairs, ⟨hne, hcomma, -⟩, hall, hnodup⟩ := h
  have hwritable := writable_of_forall₂ hall hcomma
  refine ⟨_, ⟨?_, ?_, rfl⟩, forall₂_writePair hwritable pad, hnodup⟩
  · have hlayout : layout ≠ [] := by
      rintro rfl
      exact hne (List.forall₂_nil_right_iff.mp hall)
    simpa using hlayout
  · intro pair hpair
    obtain ⟨position, hposition, rfl⟩ := List.mem_mapIdx.mp hpair
    exact (hwritable _ (List.getElem_mem hposition)).comma_not_mem _

theorem writePadded_none (layout : Layout) :
    writePadded (fun _ => .none) layout = write layout := by
  rw [Layout.writePadded, write]
  congr 1
  exact List.ext_getElem (by simp) (by simp [writePair, Padding.none])

end Texts

/-- Writing a layout that was read and reading it again gives the same layout, whatever blanks the
writing puts around the commas and the colons between names and types. -/
theorem read_write {known : List String} {owner definition : String} {layout : Layout}
    (h : read known owner definition = .ok layout) (reader : String) :
    read known reader (String.ofList (write layout)) = .ok layout ∧
      ∀ pad : ℕ → Padding,
        read known reader (String.ofList (writePadded pad layout)) = .ok layout := by
  rw [read_eq_ok_iff, readChars_eq_ok_iff] at h
  have hpadded : ∀ pad : ℕ → Padding,
      read known reader (String.ofList (writePadded pad layout)) = .ok layout := by
    intro pad
    rw [read_eq_ok_iff, readChars_eq_ok_iff, String.toList_ofList]
    exact h.writePadded pad
  refine ⟨?_, hpadded⟩
  rw [← writePadded_none]
  exact hpadded _

/-- A record type with a colon and a blank in its name. -/
theorem read_write_inner_colon :
    read ["a:b c"] "" " x: a:b c , y :u8" = .ok [("x", .object "a:b c"), ("y", .scalar .int)] ∧
      read ["a:b c"] "" (String.ofList (write [("x", .object "a:b c"), ("y", .scalar .int)])) =
        .ok [("x", .object "a:b c"), ("y", .scalar .int)] := by
  have hread : read ["a:b c"] "" " x: a:b c , y :u8" =
      .ok [("x", .object "a:b c"), ("y", .scalar .int)] := by
    decide
  exact ⟨hread, (read_write hread "").1⟩

end WorldQuery.Layout
