import WorldQuery.Proofs.Layout.Grammar

/-!
# Known types and references

The known types of a reading matter only as far as the definition names them. Two sets of known
types that have the same words of a definition in common give the same reading, its faults included:
`read_congr`. A definition that can be read at all has one layout, and exactly the sets that contain
the references of this layout give it: `read_iff_references`.
-/

namespace WorldQuery.Layout

open Text Success

def references (layout : Layout) : List String :=
  layout.filterMap fun field =>
    match field.2 with
    | .scalar _ => none
    | .object name => some name

/-- The word stands for the type of a pair of the definition. -/
def Uses (definition : List Char) (word : String) : Prop :=
  ∃ pairs pair name, Between definition pairs ∧ pair ∈ pairs ∧ Parts pair name word

variable {known other : List String} {owner definition : String} {layout found : Layout}

theorem mem_references {name : String} :
    name ∈ references layout ↔ ∃ field, (field, TypeRef.object name) ∈ layout := by
  unfold references
  rw [List.mem_filterMap]
  constructor
  · rintro ⟨⟨field, kind | target⟩, hmem, htarget⟩
    · cases htarget
    · obtain rfl := Option.some.inj htarget
      exact ⟨field, hmem⟩
  · rintro ⟨field, hmem⟩
    exact ⟨(field, .object name), hmem, rfl⟩

/-! ### Words that are used -/

section Words

variable {position : Nat} {earlier : Layout} {pair : List Char} {pairs : List (List Char)}

theorem means_congr {word : String} (h : word ∈ known ↔ word ∈ other) {type : TypeRef} :
    Means known word type ↔ Means other word type := by
  constructor
  · rintro (hword | ⟨hknown, hfree⟩)
    · exact .scalar hword
    · exact .record (h.mp hknown) hfree
  · rintro (hword | ⟨hknown, hfree⟩)
    · exact .scalar hword
    · exact .record (h.mpr hknown) hfree

theorem resolve_congr {word : String} (h : word ∈ known ↔ word ∈ other) :
    resolve known word = resolve other word := by
  cases hread : resolve known word with
  | ok type => exact (resolve_eq_ok_iff.mpr ((means_congr h).mp (resolve_eq_ok_iff.mp hread))).symm
  | error cause =>
    obtain ⟨hnothing, hcause⟩ := resolve_eq_error_iff.mp hread
    refine (resolve_eq_error_iff.mpr ⟨fun type hmeans => ?_, hcause⟩).symm
    exact hnothing type ((means_congr h).mpr hmeans)

theorem readPair_congr
    (h : ∀ name word, Parts pair name word → (word ∈ known ↔ word ∈ other)) :
    readPair known position earlier pair = readPair other position earlier pair := by
  rcases not_mem_or_parts pair with hcolon | ⟨name, word, hparts⟩
  · rw [readPair_of_not_mem hcolon, readPair_of_not_mem hcolon]
  · rw [readPair_of_parts hparts, readPair_of_parts hparts, resolve_congr (h name word hparts)]

/-- The pairs are read alike one after another, as the fields in front of them are the same. -/
theorem readPairs_congr
    (h : ∀ pair ∈ pairs, ∀ name word, Parts pair name word → (word ∈ known ↔ word ∈ other)) :
    readPairs known position earlier pairs = readPairs other position earlier pairs := by
  induction pairs generalizing position earlier with
  | nil => rfl
  | cons pair rest ih =>
    obtain ⟨hpair, hrest⟩ := List.forall_mem_cons.mp h
    rw [readPairs, readPairs, readPair_congr hpair]
    exact bind_congr fun field => ih hrest

end Words

theorem read_congr
    (h : ∀ word, Uses definition.toList word → (word ∈ known ↔ word ∈ other)) :
    read known owner definition = read other owner definition := by
  have hpairs : readPairs known 0 [] (pieces (· == ',') definition.toList) =
      readPairs other 0 [] (pieces (· == ',') definition.toList) := by
    refine readPairs_congr fun pair hpair name word hparts => ?_
    exact h word ⟨_, pair, name, between_iff.mpr rfl, hpair, hparts⟩
  rw [read, read, readChars, readChars, hpairs]

/-! ### References that are known -/

theorem read_of_references {owner' : String} (h : read known owner definition = .ok layout)
    (hknown : references layout ⊆ other) : read other owner' definition = .ok layout := by
  rw [read_eq_ok_iff] at h ⊢
  refine readChars_of_references h fun field name hmem => ?_
  exact hknown (mem_references.mpr ⟨field, hmem⟩)

theorem references_subset (h : read known owner definition = .ok layout) :
    references layout ⊆ known := by
  intro name hname
  obtain ⟨field, hmem⟩ := mem_references.mp hname
  exact (readChars_wellFormed (read_eq_ok_iff.mp h)).references field name hmem

/-- Two readings of one definition that succeed give one layout: the union of their known types
gives both. -/
theorem read_unique {owner' : String} (h : read known owner definition = .ok layout)
    (h' : read other owner' definition = .ok found) : found = layout := by
  have hall : read (known ++ other) owner definition = .ok layout :=
    read_of_references h fun name hname => List.mem_append_left _ (references_subset h hname)
  have hall' : read (known ++ other) owner definition = .ok found :=
    read_of_references h' fun name hname => List.mem_append_right _ (references_subset h' hname)
  exact Except.ok.inj (hall'.symm.trans hall)

/-- More known types keep a reading, fewer keep it exactly if they contain its references. So a
definition that can be read has one layout, and is read with all known types that contain the
references of that; in every case a reading depends only on which of the words that the definition
uses are known. -/
theorem read_iff_references (hsub : known ⊆ other) (owner definition : String) :
    (∀ layout, read known owner definition = .ok layout →
      read other owner definition = .ok layout) ∧
    (∀ layout, read other owner definition = .ok layout → references layout ⊆ known →
      read known owner definition = .ok layout) ∧
    (∀ layout, read known owner definition = .ok layout → ∀ third owner' found,
      read third owner' definition = .ok found ↔ found = layout ∧ references layout ⊆ third) ∧
    ∀ third, (∀ word, Uses definition.toList word → (word ∈ known ↔ word ∈ third)) →
      read third owner definition = read known owner definition := by
  refine ⟨fun layout h => ?_, fun layout h hknown => read_of_references h hknown,
    fun layout h third owner' found => ⟨fun h' => ?_, ?_⟩, fun third h => (read_congr h).symm⟩
  · exact read_of_references h fun name hname => hsub (references_subset h hname)
  · obtain rfl := read_unique h h'
    exact ⟨rfl, references_subset h'⟩
  · rintro ⟨rfl, hknown⟩
    exact read_of_references h hknown

/-- A reference and a scalar whose word is among the known types, too. -/
theorem read_at_position :
    let layout : Layout := [("at", .object "Position"), ("felt", .scalar .felt)]
    read ["Position"] "Player" "at: Position, felt: Felt" = .ok layout ∧
      read ["Ghost", "Felt", "Position"] "Player" "at: Position, felt: Felt" = .ok layout ∧
      (∀ found, read ["Ghost", "Felt"] "Player" "at: Position, felt: Felt" ≠ .ok found) ∧
      read ["Position", "Ghost"] "Player" "at: Position, felt: Felt" = .ok layout := by
  intro layout
  have hsub : ["Position"] ⊆ ["Ghost", "Felt", "Position"] := by decide
  have hread : read ["Ghost", "Felt", "Position"] "Player" "at: Position, felt: Felt" =
      .ok layout := by decide
  obtain ⟨hmore, hfewer, hiff, hwords⟩ :=
    read_iff_references hsub "Player" "at: Position, felt: Felt"
  have hknown := hfewer layout hread (by decide)
  refine ⟨hknown, hmore layout hknown, fun found hfound => ?_, ?_⟩
  · exact absurd ((hiff layout hknown _ _ _).mp hfound).2 (by decide)
  · refine (hwords _ fun word hword => ?_).trans hknown
    obtain ⟨pairs, pair, name, hpairs, hpair, hparts⟩ := hword
    have hpieces : pieces (· == ',') "at: Position, felt: Felt".toList =
        ["at: Position".toList, " felt: Felt".toList] := by decide
    obtain ⟨left, right, hcut, -, rfl⟩ := parts_iff.mp hparts
    rw [between_iff.mp hpairs, hpieces] at hpair
    rcases List.mem_pair.mp hpair with rfl | rfl
    · obtain ⟨-, rfl⟩ := Prod.mk.inj (Option.some.inj hcut)
      decide
    · obtain ⟨-, rfl⟩ := Prod.mk.inj (Option.some.inj hcut)
      decide

end WorldQuery.Layout
