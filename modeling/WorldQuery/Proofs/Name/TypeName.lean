import WorldQuery.Name
import WorldQuery.Proofs.Layout.Reading

/-!
# Type names

A type name has no underscore, as its words are cut at underscores and upper case makes none. If it
is a name of the schema language, it is a declared name that stands for itself:
`typeName_typeName`.
-/

namespace WorldQuery

open Text Text.Case

/-- A letter or underscore followed by letters, digits and underscores (ASCII). -/
def Name.IsSchemaName (name : String) : Prop :=
  ∃ c rest, name.toList = c :: rest ∧ Layout.isNameStart c = true ∧
    ∀ d ∈ rest, Layout.isNamePart d = true

/-- An underscore or a small letter (ASCII), by its code. -/
def Name.isSmallCode (n : Nat) : Bool := n == 0x5F || (0x61 ≤ n && n ≤ 0x7A)

namespace Text.Case

theorem image_cases (runs : List Run) (several : List (Nat × List Nat)) (c : Char) :
    (∃ ns, (c.toNat, ns) ∈ several ∧ image runs several c = ns.map Char.ofNat) ∨
      (∃ r ∈ runs, ∃ m, r.shifted c.toNat = some m ∧ image runs several c = [Char.ofNat m]) ∨
      ((∀ r ∈ runs, r.shifted c.toNat = none) ∧ image runs several c = [c]) := by
  unfold image single
  cases hseveral : several.lookup c.toNat with
  | some ns =>
    left
    obtain ⟨before, after, rfl, -⟩ := List.lookup_eq_some_iff.mp hseveral
    exact ⟨ns, by simp, rfl⟩
  | none =>
    right
    cases hrun : runs.findSome? (·.shifted c.toNat) with
    | some m =>
      left
      obtain ⟨r, hr, hm⟩ := List.exists_of_findSome?_eq_some hrun
      exact ⟨r, hr, m, hm, rfl⟩
    | none =>
      right
      exact ⟨List.findSome?_eq_none_iff.mp hrun, by simp⟩

theorem Run.shifted_eq_some {r : Run} {n m : Nat} (h : r.shifted n = some m) :
    r.first ≤ n ∧ n ≤ r.last ∧ m = ((n : Int) + r.shift).toNat := by
  unfold Run.shifted at h
  split_ifs at h with hrun
  exact ⟨hrun.1, hrun.2.1, by simpa using h.symm⟩

theorem toNat_ofNat_cases (n : Nat) : (Char.ofNat n).toNat = n ∨ (Char.ofNat n).toNat = 0 := by
  by_cases h : n.isValidChar
  · left
    rw [Char.ofNat, dif_pos h]
    rfl
  · right
    simp [Char.ofNat, h]

/-- The table of upper case has no small letter and no underscore among its images. -/
theorem upperSeveral_images :
    (upperSeveral.all fun p =>
      0x80 ≤ p.1 && !p.2.isEmpty && p.2.all fun n => !Name.isSmallCode n) = true := by
  decide

theorem upperRuns_images :
    (upperRuns.all fun r =>
      0x61 ≤ r.first && (r.last ≤ 0x7A || 0x80 ≤ r.first) &&
        ((r.last : Int) + r.shift < 0x5F || 0x7A < (r.first : Int) + r.shift)) = true := by
  decide

theorem isSmallCode_toNat_ofNat {n : Nat} (h : Name.isSmallCode n = false) :
    Name.isSmallCode (Char.ofNat n).toNat = false := by
  rcases toNat_ofNat_cases n with hn | hn <;> rw [hn]
  · exact h
  · rfl

theorem isSmallCode_of_mem_upperImage {c d : Char} (hc : c ≠ '_') (hd : d ∈ upperImage c) :
    Name.isSmallCode d.toNat = false := by
  rcases image_cases upperRuns upperSeveral c with ⟨ns, hns, himage⟩ | ⟨r, hr, m, hm, himage⟩ |
    ⟨hnone, himage⟩ <;> rw [upperImage, himage] at hd
  · obtain ⟨n, hn, rfl⟩ := List.mem_map.mp hd
    have htable := List.all_eq_true.mp upperSeveral_images _ hns
    simp only [Bool.and_eq_true, List.all_eq_true, Bool.not_eq_true'] at htable
    exact isSmallCode_toNat_ofNat (htable.2 n hn)
  · obtain rfl := List.mem_singleton.mp hd
    obtain ⟨hfirst, hlast, rfl⟩ := Run.shifted_eq_some hm
    have htable := List.all_eq_true.mp upperRuns_images r hr
    simp only [Bool.and_eq_true, Bool.or_eq_true, decide_eq_true_eq] at htable
    apply isSmallCode_toNat_ofNat
    simp only [Name.isSmallCode, Bool.or_eq_false_iff, beq_eq_false_iff_ne, Bool.and_eq_false_iff,
      decide_eq_false_iff_not]
    omega
  · obtain rfl := List.mem_singleton.mp hd
    have hletters := hnone ⟨0x61, 0x7A, 1, -32⟩ List.mem_cons_self
    have hne : d.toNat ≠ 0x5F := fun h => hc (Char.toNat_inj.mp h)
    simp only [Run.shifted, Nat.mod_one, and_true, ite_eq_right_iff, reduceCtorEq, imp_false,
      not_and, not_le] at hletters
    simp only [Name.isSmallCode, Bool.or_eq_false_iff, beq_eq_false_iff_ne, Bool.and_eq_false_iff,
      decide_eq_false_iff_not]
    omega

theorem upperImage_ne_nil (c : Char) : upperImage c ≠ [] := by
  rcases image_cases upperRuns upperSeveral c with ⟨ns, hns, himage⟩ | ⟨r, hr, m, -, himage⟩ |
    ⟨-, himage⟩ <;> rw [upperImage, himage]
  · have htable := List.all_eq_true.mp upperSeveral_images _ hns
    simp only [Bool.and_eq_true, Bool.not_eq_true', List.isEmpty_eq_false_iff] at htable
    simpa using htable.1.2
  · simp
  · simp

theorem upperImage_of_not_small {c : Char} (hascii : c.toNat < 0x80)
    (hsmall : Name.isSmallCode c.toNat = false) : upperImage c = [c] := by
  simp only [Name.isSmallCode, Bool.or_eq_false_iff, beq_eq_false_iff_ne, Bool.and_eq_false_iff,
    decide_eq_false_iff_not] at hsmall
  rcases image_cases upperRuns upperSeveral c with ⟨ns, hns, -⟩ | ⟨r, hr, m, hm, -⟩ | ⟨-, himage⟩
  · have htable := List.all_eq_true.mp upperSeveral_images _ hns
    simp only [Bool.and_eq_true, decide_eq_true_eq] at htable
    omega
  · obtain ⟨hfirst, hlast, -⟩ := Run.shifted_eq_some hm
    have htable := List.all_eq_true.mp upperRuns_images r hr
    simp only [Bool.and_eq_true, Bool.or_eq_true, decide_eq_true_eq] at htable
    omega
  · exact himage

end Text.Case

namespace Name

theorem mem_words {name word : List Char} (h : word ∈ words name) :
    word ≠ [] ∧ ∀ c ∈ word, isBreak c = false := by
  obtain ⟨hpiece, hne⟩ := List.mem_filter.mp h
  exact ⟨by simpa using hne, not_sep_of_mem_pieces hpiece⟩

theorem underscore_not_mem_capitalize {word : List Char} (h : ∀ c ∈ word, isBreak c = false) :
    '_' ∉ capitalize word := by
  cases word with
  | nil => simp [capitalize]
  | cons c rest =>
    have hne (d : Char) (hd : d ∈ c :: rest) : d ≠ '_' := by
      rintro rfl
      simpa [isBreak] using h _ hd
    intro hmem
    rcases List.mem_append.mp hmem with hmem | hmem
    · have himage : '_' ∈ upperImage c := by simpa [upper] using hmem
      exact absurd (isSmallCode_of_mem_upperImage (hne c (by simp)) himage) (by decide)
    · exact hne '_' (by simp [hmem]) rfl

theorem underscore_not_mem_typeChars (name : List Char) : '_' ∉ typeChars name := by
  intro hmem
  obtain ⟨chars, hchars, hmem⟩ := List.mem_flatten.mp hmem
  obtain ⟨word, hword, rfl⟩ := List.mem_map.mp hchars
  exact underscore_not_mem_capitalize (mem_words hword).2 hmem

theorem ne_underscore {c : Char} (h : isBreak c = false) : c ≠ '_' := by
  rintro rfl
  simp [isBreak] at h

theorem isSmallCode_head_typeChars {name rest : List Char} {c : Char}
    (h : typeChars name = c :: rest) : isSmallCode c.toNat = false := by
  unfold typeChars at h
  cases hwords : words name with
  | nil => simp [hwords] at h
  | cons word others =>
    have hword : word ∈ words name := by simp [hwords]
    obtain ⟨hne, hbreak⟩ := mem_words hword
    cases word with
    | nil => exact absurd rfl hne
    | cons d tail =>
      obtain ⟨e, image, himage⟩ := List.exists_cons_of_ne_nil (upperImage_ne_nil d)
      obtain ⟨rfl, -⟩ : e = c ∧ _ = rest := by
        simpa [hwords, capitalize, upper, himage] using h
      exact isSmallCode_of_mem_upperImage (ne_underscore (hbreak d (by simp)))
        (by simp [himage])

theorem isBreak_of_isNamePart {c : Char} (h : Layout.isNamePart c = true) (hc : c ≠ '_') :
    isBreak c = false ∧ isBlank c = false := by
  have hblank := Layout.isBlank_of_isNamePart h
  have hdash : c ≠ '-' := by
    rintro rfl
    exact absurd h (by decide)
  exact ⟨by simp [isBreak, hc, hdash, hblank], hblank⟩

theorem words_of_forall_not {name : List Char} (hne : name ≠ [])
    (h : ∀ c ∈ name, isBreak c = false ∧ isBlank c = false) : words name = [name] := by
  rw [words, trim_of_forall_not fun c hc => (h c hc).2, pieces_of_forall_not fun c hc => (h c hc).1]
  simpa using hne

theorem typeChars_of_isNamePart {c : Char} {rest : List Char}
    (hpart : ∀ d ∈ c :: rest, Layout.isNamePart d = true) (hunderscore : '_' ∉ c :: rest) :
    typeChars (c :: rest) = upperImage c ++ rest := by
  have hbreak : ∀ d ∈ c :: rest, isBreak d = false ∧ isBlank d = false := by
    intro d hd
    apply isBreak_of_isNamePart (hpart d hd)
    rintro rfl
    exact hunderscore hd
  rw [typeChars, words_of_forall_not (by simp) hbreak]
  simp [capitalize, upper]

theorem IsSchemaName.isNamePart {name : String} (h : IsSchemaName name) :
    ∀ c ∈ name.toList, Layout.isNamePart c = true := by
  obtain ⟨first, rest, hchars, hstart, hparts⟩ := h
  intro c hc
  rw [hchars] at hc
  rcases List.mem_cons.mp hc with rfl | hc
  · exact Layout.isNamePart_iff.mpr (Or.inl hstart)
  · exact hparts c hc

theorem isSchemaName_of_isFieldName {field : String}
    (h : Layout.isFieldName field.toList = true) : IsSchemaName field := by
  unfold IsSchemaName
  cases hchars : field.toList with
  | nil => simp [hchars, Layout.isFieldName] at h
  | cons c rest =>
    simp only [hchars, Layout.isFieldName, Bool.and_eq_true, List.all_eq_true] at h
    exact ⟨c, rest, rfl, h.1.1, h.1.2⟩

/-- A type name that the schema language allows is its own type name. -/
theorem typeName_typeName {name : String} (h : IsSchemaName (typeName name)) :
    typeName (typeName name) = typeName name := by
  have hpart := h.isNamePart
  obtain ⟨c, rest, hchars, hstart, -⟩ := h
  rw [typeName, String.toList_ofList] at hchars hpart
  rw [hchars] at hpart
  have hunderscore : '_' ∉ c :: rest := hchars ▸ underscore_not_mem_typeChars name.toList
  have hsmall := isSmallCode_head_typeChars hchars
  have hascii : c.toNat < 0x80 := by
    rw [Layout.isNameStart_iff] at hstart
    omega
  have hself : typeChars (c :: rest) = c :: rest := by
    rw [typeChars_of_isNamePart hpart hunderscore, upperImage_of_not_small hascii hsmall]
    rfl
  rw [typeName, typeName, String.toList_ofList, hchars, hself]

/-- What holds of the characters of names can be looked up below the end of ASCII. -/
theorem of_isNamePart {p : Char → Bool}
    (h : ∀ n < 0x80, Layout.isNamePart (Char.ofNat n) = true → p (Char.ofNat n) = true) {c : Char}
    (hc : Layout.isNamePart c = true) : p c = true := by
  have hcode : c.toNat < 0x80 := by
    rw [Layout.isNamePart_iff, Layout.isNameStart_iff] at hc
    omega
  rw [← Char.ofNat_toNat c] at hc ⊢
  exact h c.toNat hcode hc

end Name

end WorldQuery
