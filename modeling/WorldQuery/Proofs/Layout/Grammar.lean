import WorldQuery.Proofs.Assoc
import WorldQuery.Proofs.Layout.Reading
import WorldQuery.Proofs.Success

/-!
# The grammar of storage definitions

A definition is a list of pairs between commas, and a pair has a field name and a word for a type
around its first colon; blanks around them do not count. `Denotes` says which layout a definition
stands for, and `LeftmostFlaw` what is wrong with the first pair that is wrong, both without reading
the definition. `read_exactly` says that a reading gives just these, with one more cause for a
definition of blanks alone.
-/

namespace WorldQuery

open Text

namespace Scalar

theorem ofName?_eq_some_iff {word : String} {kind : Scalar} :
    ofName? word = some kind ↔ word = kind.name := by
  constructor
  · intro h
    have hname := List.find?_some h
    exact (beq_iff_eq.mp hname).symm
  · rintro rfl
    cases kind <;> decide

/-- A word for a kind: its schema name or one of its aliases. -/
def WordFor (kind : Scalar) (word : String) : Prop := word = kind.name ∨ (word, kind) ∈ aliases

theorem lookup_eq_some_iff {word : String} {kind : Scalar} :
    lookup word = some kind ↔ WordFor kind word := by
  have hnames : ∀ kind : Scalar, lookup kind.name = some kind := by
    intro kind
    cases kind <;> decide
  have haliases : ∀ entry ∈ aliases, lookup entry.1 = some entry.2 := by decide
  constructor
  · intro h
    unfold lookup at h
    split at h
    · next found hname =>
      obtain rfl := Option.some.inj h
      exact Or.inl (ofName?_eq_some_iff.mp hname)
    · exact Or.inr (Assoc.mem_of_get? h)
  · rintro (rfl | halias)
    · exact hnames kind
    · exact haliases _ halias

theorem lookup_eq_none_iff {word : String} : lookup word = none ↔ ∀ kind, ¬WordFor kind word := by
  rw [Option.eq_none_iff_forall_ne_some]
  exact forall_congr' fun kind => not_congr lookup_eq_some_iff

end Scalar

namespace Layout

/-! ### Names and words -/

def IsLetter (c : Char) : Prop := 'A' ≤ c ∧ c ≤ 'Z' ∨ 'a' ≤ c ∧ c ≤ 'z'

/-- A letter or underscore, then letters, digits and underscores, but not two underscores first. -/
def FieldName (name : List Char) : Prop :=
  ∃ c rest, name = c :: rest ∧ (c = '_' ∨ IsLetter c) ∧
    (∀ d ∈ rest, d = '_' ∨ IsLetter d ∨ '0' ≤ d ∧ d ≤ '9') ∧ ¬['_', '_'] <+: name

/-- What a word of a definition means: scalar words come before record types. -/
inductive Means (known : List String) (word : String) : TypeRef → Prop where
  | scalar {kind : Scalar} (h : kind.WordFor word) : Means known word (.scalar kind)
  | record (h : word ∈ known) (free : ∀ kind : Scalar, ¬kind.WordFor word) :
    Means known word (.object word)

theorem isNameStart_iff_letter {c : Char} : isNameStart c = true ↔ c = '_' ∨ IsLetter c := by
  simp [isNameStart, IsLetter, or_assoc]

theorem isNamePart_iff_letter {c : Char} :
    isNamePart c = true ↔ c = '_' ∨ IsLetter c ∨ '0' ≤ c ∧ c ≤ '9' := by
  simp [isNamePart, isNameStart_iff_letter, or_assoc]

theorem FieldName.part_of_mem {name : List Char} (h : FieldName name) :
    ∀ c ∈ name, isNamePart c = true := by
  obtain ⟨c, rest, rfl, hc, hrest, -⟩ := h
  intro d hd
  rw [isNamePart_iff_letter]
  rcases List.mem_cons.mp hd with rfl | hd
  · exact hc.imp_right Or.inl
  · exact hrest d hd

theorem isFieldName_iff {name : List Char} : isFieldName name = true ↔ FieldName name := by
  cases name with
  | nil => simp [isFieldName, FieldName]
  | cons c rest =>
    have htwo : ['_', '_'] <+: c :: rest ↔ c = '_' ∧ rest.head? = some '_' := by
      cases rest <;> simp [eq_comm]
    have hparts : FieldName (c :: rest) ↔ (c = '_' ∨ IsLetter c) ∧
        (∀ d ∈ rest, d = '_' ∨ IsLetter d ∨ '0' ≤ d ∧ d ≤ '9') ∧
          ¬(c = '_' ∧ rest.head? = some '_') := by
      rw [FieldName, htwo]
      constructor
      · rintro ⟨d, tail, heq, h⟩
        obtain ⟨rfl, rfl⟩ := List.cons.inj heq
        exact h
      · exact fun h => ⟨c, rest, rfl, h⟩
    rw [hparts, isFieldName, Bool.and_eq_true, Bool.and_eq_true, isNameStart_iff_letter,
      List.all_eq_true, and_assoc, Bool.not_eq_true', ← Bool.not_eq_true, Bool.and_eq_true,
      beq_iff_eq, beq_iff_eq]
    simp only [isNamePart_iff_letter]

instance (name : List Char) : Decidable (FieldName name) :=
  decidable_of_iff _ isFieldName_iff

section Words

variable {known : List String} {word : String} {type : TypeRef} {cause : LayoutCause}

theorem resolve_eq_ok_iff : resolve known word = .ok type ↔ Means known word type := by
  constructor
  · intro h
    unfold resolve at h
    split at h
    · next kind hlookup =>
      obtain rfl := Except.ok.inj h
      exact .scalar (Scalar.lookup_eq_some_iff.mp hlookup)
    · next hlookup =>
      split_ifs at h with hknown
      obtain rfl := Except.ok.inj h
      exact .record (by simpa using hknown) (Scalar.lookup_eq_none_iff.mp hlookup)
  · intro h
    cases h with
    | scalar hword => simp [resolve, Scalar.lookup_eq_some_iff.mpr hword]
    | record hknown hfree => simp [resolve, Scalar.lookup_eq_none_iff.mpr hfree, hknown]

theorem resolve_eq_error_iff : resolve known word = .error cause ↔
    (∀ type, ¬Means known word type) ∧
      cause = if word = "" then .missingType else .unknownType word := by
  constructor
  · intro h
    refine ⟨fun type hmeans => ?_, ?_⟩
    · rw [resolve_eq_ok_iff.mpr hmeans] at h
      cases h
    · unfold resolve at h
      split at h
      · cases h
      · split_ifs at h ⊢ <;> exact (Except.error.inj h).symm
  · rintro ⟨hmeans, rfl⟩
    unfold resolve
    split
    · next kind hlookup =>
      exact absurd (.scalar (Scalar.lookup_eq_some_iff.mp hlookup)) (hmeans (.scalar kind))
    · next hlookup =>
      have hknown : word ∉ known := fun hmem =>
        hmeans _ (.record hmem (Scalar.lookup_eq_none_iff.mp hlookup))
      rw [if_neg (by simpa using hknown)]
      split_ifs <;> rfl

end Words

/-! ### Pairs -/

/-- What a pair has around its first colon, without the blanks. -/
def Parts (pair : List Char) (name word : String) : Prop :=
  ∃ left right, pair = left ++ ':' :: right ∧ ':' ∉ left ∧
    Stripped left name.toList ∧ Stripped right word.toList

def PairOf (known : List String) (pair : List Char) (field : String × TypeRef) : Prop :=
  ∃ word, Parts pair field.1 word ∧ FieldName field.1.toList ∧ Means known word field.2

/-- What is wrong with the pair at a position, behind fields of the names in `earlier`. -/
inductive Flaw (known : List String) (position : Nat) (earlier : List String)
    (pair : List Char) : LayoutCause → Prop where
  | notPair {text : String} (no_colon : ':' ∉ pair) (shown : Stripped pair text.toList) :
    Flaw known position earlier pair (.notPair position text)
  | badName {name word : String} (parts : Parts pair name word) (bad : ¬FieldName name.toList) :
    Flaw known position earlier pair (.badName position name)
  | duplicate {name word : String} (parts : Parts pair name word) (good : FieldName name.toList)
      (used : name ∈ earlier) : Flaw known position earlier pair (.duplicate name)
  | missingType {name : String} (parts : Parts pair name "") (good : FieldName name.toList)
      (free : name ∉ earlier) (nothing : ∀ type, ¬Means known "" type) :
    Flaw known position earlier pair .missingType
  | unknownType {name word : String} (parts : Parts pair name word) (good : FieldName name.toList)
      (free : name ∉ earlier) (present : word ≠ "") (nothing : ∀ type, ¬Means known word type) :
    Flaw known position earlier pair (.unknownType word)

section Pairs

variable {known : List String} {position : Nat} {earlier layout : Layout} {pair : List Char}
  {name word : String} {field : String × TypeRef} {cause : LayoutCause}

theorem parts_iff : Parts pair name word ↔ ∃ left right, cutAt ':' pair = some (left, right) ∧
    name = String.ofList (trim left) ∧ word = String.ofList (trim right) := by
  have hcore : ∀ (core : String) (text : List Char),
      Stripped text core.toList ↔ core = String.ofList (trim text) := by
    intro core text
    rw [stripped_iff, ← String.toList_inj, String.toList_ofList]
  simp only [Parts, hcore, cutAt_eq_some_iff, and_assoc]

theorem readPair_of_parts (h : Parts pair name word) :
    readPair known position earlier pair =
      if FieldName name.toList then
        if name ∈ Assoc.keys earlier then .error (.duplicate name)
        else (resolve known word).map fun type => (name, type)
      else .error (.badName position name) := by
  obtain ⟨left, right, hcut, rfl, rfl⟩ := parts_iff.mp h
  simp only [readPair, hcut, String.toList_ofList, ← isFieldName_iff, Assoc.has,
    List.contains_iff_mem]
  cases isFieldName (trim left) <;> rfl

theorem readPair_of_not_mem (h : ':' ∉ pair) :
    readPair known position earlier pair =
      .error (.notPair position (String.ofList (trim pair))) := by
  simp only [readPair, cutAt_eq_none_iff.mpr h]

theorem not_mem_or_parts (pair : List Char) : ':' ∉ pair ∨ ∃ name word, Parts pair name word := by
  cases hcut : cutAt ':' pair with
  | none => exact Or.inl (cutAt_eq_none_iff.mp hcut)
  | some sides => exact Or.inr ⟨_, _, parts_iff.mpr ⟨sides.1, sides.2, hcut, rfl, rfl⟩⟩

theorem readPair_eq_ok_iff_pairOf : readPair known position earlier pair = .ok field ↔
    PairOf known pair field ∧ field.1 ∉ Assoc.keys earlier := by
  obtain ⟨name, type⟩ := field
  rw [readPair_eq_ok_iff, PairOf]
  constructor
  · rintro ⟨left, right, hcut, hname, rfl, hfree, hword⟩
    refine ⟨⟨_, parts_iff.mpr ⟨left, right, hcut, rfl, rfl⟩, ?_, resolve_eq_ok_iff.mp hword⟩,
      Assoc.has_eq_false_iff.mp hfree⟩
    rwa [String.toList_ofList, ← isFieldName_iff]
  · rintro ⟨⟨word, hparts, hname, hmeans⟩, hfree⟩
    obtain ⟨left, right, hcut, rfl, rfl⟩ := parts_iff.mp hparts
    rw [String.toList_ofList, ← isFieldName_iff] at hname
    exact ⟨left, right, hcut, hname, rfl, Assoc.has_eq_false_iff.mpr hfree,
      resolve_eq_ok_iff.mpr hmeans⟩

theorem flaw_of_readPair (h : readPair known position earlier pair = .error cause) :
    Flaw known position (Assoc.keys earlier) pair cause := by
  rcases not_mem_or_parts pair with hcolon | ⟨name, word, hparts⟩
  · rw [readPair_of_not_mem hcolon] at h
    obtain rfl := Except.error.inj h
    refine .notPair hcolon ?_
    rw [String.toList_ofList]
    exact stripped_trim pair
  · rw [readPair_of_parts hparts] at h
    split_ifs at h with hgood hused
    · obtain rfl := Except.error.inj h
      exact .duplicate hparts hgood hused
    · obtain ⟨hnothing, rfl⟩ := resolve_eq_error_iff.mp (Success.map_eq_error_iff.mp h)
      split_ifs with hword
      · subst hword
        exact .missingType hparts hgood hused hnothing
      · exact .unknownType hparts hgood hused hword hnothing
    · obtain rfl := Except.error.inj h
      exact .badName hparts hgood

theorem Flaw.readPair_eq (h : Flaw known position (Assoc.keys earlier) pair cause) :
    readPair known position earlier pair = .error cause := by
  cases h with
  | notPair hcolon hshown =>
    rw [readPair_of_not_mem hcolon, ← stripped_iff.mp hshown, String.ofList_toList]
  | badName hparts hbad => rw [readPair_of_parts hparts, if_neg hbad]
  | duplicate hparts hgood hused =>
    rw [readPair_of_parts hparts, if_pos hgood, if_pos hused]
  | missingType hparts hgood hfree hnothing =>
    rw [readPair_of_parts hparts, if_pos hgood, if_neg hfree,
      resolve_eq_error_iff.mpr ⟨hnothing, rfl⟩]
    rfl
  | unknownType hparts hgood hfree hword hnothing =>
    rw [readPair_of_parts hparts, if_pos hgood, if_neg hfree,
      resolve_eq_error_iff.mpr ⟨hnothing, (if_neg hword).symm⟩]
    rfl

end Pairs

/-! ### Definitions -/

/-- The texts between the commas of a text. -/
def Between (text : List Char) (pairs : List (List Char)) : Prop :=
  pairs ≠ [] ∧ (∀ pair ∈ pairs, ',' ∉ pair) ∧ text = [','].intercalate pairs

/-- The pairs declare the fields one by one, and no name twice. -/
def Declare (known : List String) (pairs : List (List Char)) (fields : Layout) : Prop :=
  List.Forall₂ (PairOf known) pairs fields ∧ (Assoc.keys fields).Nodup

/-- The layout that a definition stands for. -/
def Denotes (known : List String) (text : List Char) (layout : Layout) : Prop :=
  ∃ pairs, Between text pairs ∧ Declare known pairs layout

/-- What is wrong with the first pair that is wrong. -/
def LeftmostFlaw (known : List String) (text : List Char) (cause : LayoutCause) : Prop :=
  ∃ before pair after fields, Between text (before ++ pair :: after) ∧
    Declare known before fields ∧ Flaw known before.length (Assoc.keys fields) pair cause

section Definitions

variable {known : List String} {position : Nat} {earlier layout fields : Layout} {text : List Char}
  {pairs : List (List Char)} {cause : LayoutCause}

theorem between_iff : Between text pairs ↔ pairs = pieces (· == ',') text := eq_pieces_iff.symm

theorem nodup_keys_append_singleton {name : String} {type : TypeRef} :
    (Assoc.keys (earlier ++ [(name, type)])).Nodup ↔
      (Assoc.keys earlier).Nodup ∧ name ∉ Assoc.keys earlier := by
  rw [Assoc.keys, List.map_append, ← Assoc.keys, List.map_singleton, ← List.concat_eq_append,
    List.nodup_concat, and_comm]

theorem readPairs_eq_ok_iff (hearlier : (Assoc.keys earlier).Nodup) :
    readPairs known position earlier pairs = .ok layout ↔
      ∃ fields, layout = earlier ++ fields ∧ List.Forall₂ (PairOf known) pairs fields ∧
        (Assoc.keys layout).Nodup := by
  induction pairs generalizing position earlier with
  | nil => simp +contextual [readPairs, eq_comm, hearlier]
  | cons pair rest ih =>
    rw [readPairs_cons_eq_ok_iff]
    constructor
    · rintro ⟨field, hpair, hrest⟩
      obtain ⟨hpair, hfree⟩ := readPair_eq_ok_iff_pairOf.mp hpair
      obtain ⟨fields, rfl, hfields, hlayout⟩ :=
        (ih (nodup_keys_append_singleton.mpr ⟨hearlier, hfree⟩)).mp hrest
      exact ⟨field :: fields, by simp, .cons hpair hfields, hlayout⟩
    · rintro ⟨_, rfl, hall, hlayout⟩
      obtain ⟨⟨name, type⟩, fields, hpair, hfields, rfl⟩ := List.forall₂_cons_left_iff.mp hall
      have hfirst : (Assoc.keys (earlier ++ [(name, type)])).Nodup := by
        refine hlayout.sublist (List.Sublist.map _ ?_)
        simp
      obtain ⟨-, hfree⟩ := nodup_keys_append_singleton.mp hfirst
      refine ⟨(name, type), readPair_eq_ok_iff_pairOf.mpr ⟨hpair, hfree⟩, ?_⟩
      exact (ih hfirst).mpr ⟨fields, by simp, hfields, by simpa using hlayout⟩

/-- A reading that fails has read the pairs before the one it fails at. -/
theorem readPairs_eq_error_iff :
    readPairs known position earlier pairs = .error cause ↔
      ∃ before pair after layout, pairs = before ++ pair :: after ∧
        readPairs known position earlier before = .ok layout ∧
        readPair known (position + before.length) layout pair = .error cause := by
  induction pairs generalizing position earlier with
  | nil => simp [readPairs]
  | cons pair rest ih =>
    constructor
    · intro h
      rw [readPairs] at h
      cases hpair : readPair known position earlier pair with
      | error found =>
        obtain rfl : found = cause := by simpa [hpair, bind, Except.bind] using h
        exact ⟨[], pair, rest, earlier, rfl, rfl, hpair⟩
      | ok field =>
        rw [hpair] at h
        obtain ⟨before, bad, after, layout, rfl, hbefore, hbad⟩ := ih.mp h
        refine ⟨pair :: before, bad, after, layout, rfl, ?_, ?_⟩
        · exact readPairs_cons_eq_ok_iff.mpr ⟨field, hpair, hbefore⟩
        · rwa [List.length_cons, Nat.add_comm before.length, ← Nat.add_assoc]
    · rintro ⟨before, bad, after, layout, heq, hbefore, hbad⟩
      rw [readPairs]
      cases before with
      | nil =>
        obtain ⟨rfl, rfl⟩ := List.cons.inj heq
        obtain rfl := Except.ok.inj hbefore
        rw [show readPair known position earlier pair = .error cause from hbad]
        rfl
      | cons first before =>
        obtain ⟨rfl, rfl⟩ := List.cons.inj heq
        obtain ⟨field, hpair, hbefore⟩ := readPairs_cons_eq_ok_iff.mp hbefore
        rw [hpair]
        refine ih.mpr ⟨before, bad, after, layout, rfl, hbefore, ?_⟩
        rwa [List.length_cons, Nat.add_comm before.length, ← Nat.add_assoc] at hbad

theorem declare_iff : Declare known pairs layout ↔ readPairs known 0 [] pairs = .ok layout := by
  have hnone : (Assoc.keys ([] : Layout)).Nodup := List.nodup_nil
  rw [readPairs_eq_ok_iff hnone]
  simp [Declare]

theorem leftmostFlaw_iff : LeftmostFlaw known text cause ↔
    readPairs known 0 [] (pieces (· == ',') text) = .error cause := by
  simp only [readPairs_eq_error_iff, LeftmostFlaw, between_iff, declare_iff, Nat.zero_add]
  constructor
  · rintro ⟨before, pair, after, fields, hpieces, hbefore, hflaw⟩
    exact ⟨before, pair, after, fields, hpieces.symm, hbefore, hflaw.readPair_eq⟩
  · rintro ⟨before, pair, after, fields, hpieces, hbefore, hbad⟩
    exact ⟨before, pair, after, fields, hpieces.symm, hbefore, flaw_of_readPair hbad⟩

/-- A pair has a colon, so a definition of blanks alone has no pair. -/
theorem not_denotes_of_blank (h : Blank text) : ¬Denotes known text layout := by
  rintro ⟨pairs, hpairs, hdeclare, -⟩
  have hcomma : ∀ c ∈ text, (c == ',') = false := by
    intro c hc
    rw [beq_eq_false_iff_ne]
    rintro rfl
    exact absurd (h _ hc) (by decide)
  rw [between_iff.mp hpairs, pieces_of_forall_not hcomma, List.forall₂_cons_left_iff] at hdeclare
  obtain ⟨field, -, ⟨word, ⟨left, right, rfl, -⟩, -⟩, -⟩ := hdeclare
  exact absurd (h ':' (by simp)) (by decide)

theorem readChars_eq_ok_iff : readChars known text = .ok layout ↔ Denotes known text layout := by
  rw [readChars]
  split_ifs with hblank
  · have hnone : ¬Denotes known text layout := not_denotes_of_blank (List.all_eq_true.mp hblank)
    simpa using hnone
  · simp [Denotes, between_iff, declare_iff]

end Definitions

/-- What is wrong with a definition. One of blanks alone has no pair that is wrong. -/
def Wrong (known : List String) (text : List Char) (cause : LayoutCause) : Prop :=
  Blank text ∧ cause = .empty ∨ ¬Blank text ∧ LeftmostFlaw known text cause

theorem readChars_eq_error_iff {known : List String} {text : List Char} {cause : LayoutCause} :
    readChars known text = .error cause ↔ Wrong known text cause := by
  have hall : text.all isBlank = true ↔ Blank text := List.all_eq_true
  rw [readChars]
  split_ifs with hblank
  · simp [Wrong, hall.mp hblank, eq_comm]
  · simp [Wrong, mt hall.mpr hblank, leftmostFlaw_iff]

theorem read_eq_error_iff {known : List String} {owner definition : String}
    {fault : LayoutFault} : read known owner definition = .error fault ↔
      ∃ cause, Wrong known definition.toList cause ∧ fault = ⟨cause, definition, owner⟩ := by
  simp only [← readChars_eq_error_iff, read]
  cases readChars known definition.toList <;> simp [Except.mapError, eq_comm]

/-- A reading gives the layout that a definition stands for. Where there is none, it fails with the
definition, the owner, and what is wrong with the first pair that is wrong. -/
theorem read_exactly (known : List String) (owner definition : String) :
    (∀ layout, read known owner definition = .ok layout ↔
      Denotes known definition.toList layout) ∧
    (∀ fault, read known owner definition = .error fault ↔
      ∃ cause, Wrong known definition.toList cause ∧ fault = ⟨cause, definition, owner⟩) ∧
    ((∃ layout, Denotes known definition.toList layout) ∨
      ∃ cause, Wrong known definition.toList cause ∧
        (⟨cause, definition, owner⟩ : LayoutFault).message =
          (if owner = "" then "" else "[" ++ owner ++ "] ") ++ cause.message) := by
  refine ⟨fun layout => ?_, fun fault => read_eq_error_iff, ?_⟩
  · rw [read_eq_ok_iff, readChars_eq_ok_iff]
  · cases hread : readChars known definition.toList with
    | ok layout => exact Or.inl ⟨layout, readChars_eq_ok_iff.mp hread⟩
    | error cause =>
      refine Or.inr ⟨cause, readChars_eq_error_iff.mp hread, ?_⟩
      rw [LayoutFault.message]
      split_ifs <;> simp

/-- A definition without characters has one pair, which lacks a colon, but the reading does not
blame that pair. -/
theorem empty_definition_blames_no_pair :
    read [] "" "" = .error ⟨.empty, "", ""⟩ ∧ ¬LeftmostFlaw [] "".toList .empty ∧
      LeftmostFlaw [] "".toList (.notPair 0 "") := by
  refine ⟨by decide, ?_, ?_⟩
  · rintro ⟨_, _, _, _, _, _, hflaw⟩
    cases hflaw
  · refine ⟨[], [], [], [], ⟨by simp, by simp, rfl⟩, ⟨.nil, by simp [Assoc.keys]⟩, ?_⟩
    exact .notPair (by simp) ⟨[], [], rfl, by simp [Blank], by simp [Blank], by simp [Trimmed]⟩

end Layout

end WorldQuery
