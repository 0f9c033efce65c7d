import WorldQuery.Number.Binary64
import WorldQuery.Proofs.Name.TypeName

/-!
# Names that are written alike

The spelling of columns keeps two things of a type name: its letters regardless of case, and the
places where its words start. `snakeChars_eq_iff` says that it keeps no more, so that different type
names may be written alike; they are not if no two capitals follow each other,
`eq_of_wordStarts_eq`.
-/

namespace WorldQuery.Name

open Number.Binary64 (asciiLower)
open Text.Case

/-- Where the words of a name start, for every character after the first. -/
def wordStarts : List Char → List Bool
  | [] => []
  | [_] => []
  | before :: c :: rest => startsWord before c rest :: wordStarts (c :: rest)

/-- No two capitals follow each other. -/
def Spaced (name : List Char) : Prop := name.IsChain fun c d => (isUpper c && isUpper d) = false

/-- The characters of a type name of the schema language. -/
structure Plain (name : List Char) : Prop where
  isNamePart : ∀ c ∈ name, Layout.isNamePart c = true
  no_underscore : '_' ∉ name

variable {x y : List Char}

theorem Plain.tail {c : Char} (h : Plain (c :: x)) : Plain x :=
  ⟨fun d hd => h.isNamePart d (List.mem_cons_of_mem _ hd),
    fun hmem => h.no_underscore (List.mem_cons_of_mem _ hmem)⟩

/-! ### Lower case -/

/-- How the characters of names are lowered, and of which kinds they are. -/
theorem namePart_table {c : Char} (hc : Layout.isNamePart c = true) :
    lowerImage c = [asciiLower c] ∧ asciiLower (asciiLower c) = asciiLower c ∧
      (c = '_' ∨ asciiLower c ≠ '_') ∧
      (c = '_' ∨ isUpper c = true ∨ isLowerOrDigit c = true) :=
  of_decide_eq_true (of_isNamePart (p := fun c => decide (lowerImage c = [asciiLower c] ∧
    asciiLower (asciiLower c) = asciiLower c ∧ (c = '_' ∨ asciiLower c ≠ '_') ∧
    (c = '_' ∨ isUpper c = true ∨ isLowerOrDigit c = true))) (by decide +kernel) hc)

theorem lowerImage_of_isNamePart {c : Char} (hc : Layout.isNamePart c = true) :
    lowerImage c = [asciiLower c] :=
  (namePart_table hc).1

theorem lowerAfter_of_isNamePart (h : ∀ c ∈ x, Layout.isNamePart c = true) (before : List Char) :
    lowerAfter before x = x.map asciiLower := by
  induction x generalizing before with
  | nil => rfl
  | cons c rest ih =>
    have hc := h c List.mem_cons_self
    have hsigma : c ≠ 'Σ' := by
      rintro rfl
      exact absurd hc (by decide)
    rw [lowerAfter, if_neg hsigma, lowerImage_of_isNamePart hc,
      ih fun d hd => h d (List.mem_cons_of_mem _ hd)]
    rfl

theorem mem_markWords {name : List Char} {c : Char} (h : c ∈ markWords name) :
    c ∈ name ∨ c = '_' := by
  induction name using markWords.induct with
  | case1 => simp [markWords] at h
  | case2 d => exact Or.inl h
  | case3 before d rest hstart ih =>
    rw [markWords, if_pos hstart] at h
    rcases List.mem_cons.mp h with rfl | h
    · exact Or.inl List.mem_cons_self
    rcases List.mem_cons.mp h with rfl | h
    · exact Or.inr rfl
    · exact (ih h).imp_left (List.mem_cons_of_mem _)
  | case4 before d rest hstart ih =>
    rw [markWords, if_neg hstart] at h
    rcases List.mem_cons.mp h with rfl | h
    · exact Or.inl List.mem_cons_self
    · exact (ih h).imp_left (List.mem_cons_of_mem _)

theorem isNamePart_of_mem_markWords (h : ∀ c ∈ x, Layout.isNamePart c = true) :
    ∀ c ∈ markWords x, Layout.isNamePart c = true := by
  intro c hc
  rcases mem_markWords hc with hc | rfl
  · exact h c hc
  · decide

theorem snakeChars_eq_map (h : ∀ c ∈ x, Layout.isNamePart c = true) :
    snakeChars x = (markWords x).map asciiLower := by
  exact lowerAfter_of_isNamePart (isNamePart_of_mem_markWords h) []

theorem isNamePart_asciiLower {c : Char} (hc : Layout.isNamePart c = true) :
    Layout.isNamePart (asciiLower c) = true :=
  of_isNamePart (p := fun c => Layout.isNamePart (asciiLower c)) (by decide +kernel) hc

theorem isNamePart_of_mem_snakeChars {name : String} (h : IsSchemaName name) {c : Char}
    (hc : c ∈ snakeChars name.toList) : Layout.isNamePart c = true := by
  rw [snakeChars_eq_map h.isNamePart] at hc
  obtain ⟨d, hd, rfl⟩ := List.mem_map.mp hc
  exact isNamePart_asciiLower (isNamePart_of_mem_markWords h.isNamePart d hd)

theorem map_asciiLower_snakeChars (h : ∀ c ∈ x, Layout.isNamePart c = true) :
    (snakeChars x).map asciiLower = snakeChars x := by
  rw [snakeChars_eq_map h, List.map_map]
  apply List.map_congr_left
  intro c hc
  exact (namePart_table (isNamePart_of_mem_markWords h c hc)).2.1

theorem asciiLower_ne_underscore {c : Char} (hc : Layout.isNamePart c = true) (hne : c ≠ '_') :
    asciiLower c ≠ '_' :=
  (namePart_table hc).2.2.1.resolve_left hne

/-! ### Marked words -/

theorem markWords_cons (before c : Char) (rest : List Char) :
    markWords (before :: c :: rest) =
      if startsWord before c rest then before :: '_' :: markWords (c :: rest)
      else before :: markWords (c :: rest) := by
  rw [markWords]

theorem exists_markWords_cons (c : Char) (rest : List Char) :
    ∃ marked, markWords (c :: rest) = c :: marked := by
  cases rest with
  | nil => exact ⟨[], rfl⟩
  | cons d rest =>
    rw [markWords_cons]
    split_ifs
    · exact ⟨_, rfl⟩
    · exact ⟨_, rfl⟩

theorem exists_markWords_cons_cons (before c : Char) (rest : List Char) :
    ∃ d marked, markWords (before :: c :: rest) = before :: d :: marked := by
  obtain ⟨marked, hmarked⟩ := exists_markWords_cons c rest
  rw [markWords_cons]
  split_ifs
  · exact ⟨_, _, rfl⟩
  · exact ⟨c, marked, by rw [hmarked]⟩

theorem map_markWords_ne {c : Char} {rest marked : List Char} (h : Plain (c :: rest)) :
    (markWords (c :: rest)).map asciiLower ≠ asciiLower '_' :: marked := by
  obtain ⟨others, hothers⟩ := exists_markWords_cons c rest
  rw [hothers, List.map_cons]
  intro heq
  have hne : c ≠ '_' := fun hc => h.no_underscore (hc ▸ List.mem_cons_self)
  exact asciiLower_ne_underscore (h.isNamePart c List.mem_cons_self) hne (List.cons.inj heq).1

/-- The marks tell whether a word starts at the second character. -/
theorem map_markWords_cons_eq_iff {before c d e : Char} {rest others : List Char}
    (hx : Plain (before :: c :: rest)) (hy : Plain (d :: e :: others))
    (hrest : (markWords (c :: rest)).map asciiLower = (markWords (e :: others)).map asciiLower ↔
      (c :: rest).map asciiLower = (e :: others).map asciiLower ∧
        wordStarts (c :: rest) = wordStarts (e :: others)) :
    (markWords (before :: c :: rest)).map asciiLower =
        (markWords (d :: e :: others)).map asciiLower ↔
      (before :: c :: rest).map asciiLower = (d :: e :: others).map asciiLower ∧
        wordStarts (before :: c :: rest) = wordStarts (d :: e :: others) := by
  rw [markWords_cons, markWords_cons, wordStarts, wordStarts]
  -- a mark on one side only would have to be a letter of the other
  cases hstart : startsWord before c rest <;> cases hstart' : startsWord d e others
  case false.false | true.true =>
    simp only [if_true, Bool.false_eq_true, if_false, List.map_cons, List.cons.injEq, true_and]
      at hrest ⊢
    tauto
  case false.true =>
    have hne : (markWords (c :: rest)).map asciiLower ≠
        asciiLower '_' :: (markWords (e :: others)).map asciiLower := map_markWords_ne hx.tail
    simp [hne]
  case true.false =>
    have hne : (markWords (e :: others)).map asciiLower ≠
        asciiLower '_' :: (markWords (c :: rest)).map asciiLower := map_markWords_ne hy.tail
    simp [hne.symm]

theorem map_markWords_eq_iff (hx : Plain x) (hy : Plain y) :
    (markWords x).map asciiLower = (markWords y).map asciiLower ↔
      x.map asciiLower = y.map asciiLower ∧ wordStarts x = wordStarts y := by
  induction x using wordStarts.induct generalizing y with
  | case1 =>
    cases y with
    | nil => simp
    | cons d others =>
      obtain ⟨marked, hmarked⟩ := exists_markWords_cons d others
      simp [markWords, hmarked]
  | case2 c =>
    cases y with
    | nil => simp [markWords]
    | cons d others =>
      cases others with
      | nil => simp [markWords, wordStarts]
      | cons e others =>
        obtain ⟨f, marked, hmarked⟩ := exists_markWords_cons_cons d e others
        rw [hmarked]
        simp [markWords]
  | case3 before c rest ih =>
    obtain ⟨f, marked, hmarked⟩ := exists_markWords_cons_cons before c rest
    cases y with
    | nil =>
      rw [hmarked]
      simp [markWords]
    | cons d others =>
      cases others with
      | nil =>
        rw [hmarked]
        simp [markWords]
      | cons e others =>
        exact map_markWords_cons_eq_iff hx hy (ih hx.tail hy.tail)

/-- Two type names are written alike exactly if they differ in case only and have their words in the
same places. -/
theorem snakeChars_eq_iff (hx : Plain x) (hy : Plain y) :
    snakeChars x = snakeChars y ↔
      x.map asciiLower = y.map asciiLower ∧ wordStarts x = wordStarts y := by
  rw [snakeChars_eq_map hx.isNamePart, snakeChars_eq_map hy.isNamePart, map_markWords_eq_iff hx hy]

/-! ### Names without rows of capitals -/

theorem isUpper_iff {c : Char} : isUpper c = true ↔ 0x41 ≤ c.toNat ∧ c.toNat ≤ 0x5A := by
  simp only [isUpper, Bool.and_eq_true, decide_eq_true_eq]
  rfl

theorem plain_typeName {name : String} (h : IsSchemaName (typeName name)) :
    Plain (typeName name).toList := by
  refine ⟨h.isNamePart, ?_⟩
  rw [typeName, String.toList_ofList]
  exact underscore_not_mem_typeChars name.toList

theorem exists_capital {name : String} (h : IsSchemaName (typeName name)) :
    ∃ c rest, (typeName name).toList = c :: rest ∧ isUpper c = true := by
  obtain ⟨c, rest, hchars, hstart, -⟩ := h
  refine ⟨c, rest, hchars, ?_⟩
  have hsmall : isSmallCode c.toNat = false := by
    rw [typeName, String.toList_ofList] at hchars
    exact isSmallCode_head_typeChars hchars
  rw [Layout.isNameStart_iff] at hstart
  simp only [isSmallCode, Bool.or_eq_false_iff, beq_eq_false_iff_ne, Bool.and_eq_false_iff,
    decide_eq_false_iff_not] at hsmall
  rw [isUpper_iff]
  omega

theorem toNat_asciiLower {c : Char} (h : isUpper c = true) :
    (asciiLower c).toNat = c.toNat + 32 := by
  have hcode := isUpper_iff.mp h
  have hvalid : (c.toNat + 32).isValidChar := Or.inl (by omega)
  have hlower : asciiLower c = Char.ofNat (c.toNat + 32) := if_pos hcode
  rw [hlower, Char.ofNat, dif_pos hvalid]
  rfl

theorem asciiLower_of_not_isUpper {c : Char} (h : isUpper c = false) : asciiLower c = c :=
  if_neg fun hupper => Bool.eq_false_iff.mp h (isUpper_iff.mpr hupper)

theorem eq_of_asciiLower_eq {c d : Char} (h : asciiLower c = asciiLower d)
    (hcase : isUpper c = isUpper d) : c = d := by
  cases hd : isUpper d with
  | false =>
    rwa [asciiLower_of_not_isUpper (hcase.trans hd), asciiLower_of_not_isUpper hd] at h
  | true =>
    have hnat := congrArg Char.toNat h
    rw [toNat_asciiLower (hcase.trans hd), toNat_asciiLower hd] at hnat
    exact Char.toNat_inj.mp (Nat.add_right_cancel hnat)

/-- In a name without a row of capitals, every capital after the first character starts a word. -/
theorem startsWord_eq_isUpper {before c : Char} {rest : List Char}
    (hbefore : Layout.isNamePart before = true) (hne : before ≠ '_')
    (hspaced : (isUpper before && isUpper c) = false) : startsWord before c rest = isUpper c := by
  have hkind : isUpper before = true ∨ isLowerOrDigit before = true :=
    (namePart_table hbefore).2.2.2.resolve_left hne
  unfold startsWord
  cases hc : isUpper c with
  | false => rfl
  | true =>
    rw [hc, Bool.and_true] at hspaced
    have hsmall : isLowerOrDigit before = true := by simpa [hspaced] using hkind
    rw [hsmall]
    rfl

theorem eq_of_wordStarts_eq {before : Char} (hx : Plain (before :: x)) (hy : Plain (before :: y))
    (hspaced : Spaced (before :: x)) (hspaced' : Spaced (before :: y))
    (hlower : x.map asciiLower = y.map asciiLower)
    (hstarts : wordStarts (before :: x) = wordStarts (before :: y)) : x = y := by
  induction x generalizing before y with
  | nil => simpa using hlower.symm
  | cons c rest ih =>
    cases y with
    | nil => simp at hlower
    | cons d others =>
      obtain ⟨hcd, hrest⟩ := List.cons.inj hlower
      obtain ⟨hstart, hstarts⟩ := List.cons.inj hstarts
      obtain ⟨hspacedHead, hspacedTail⟩ := List.isChain_cons_cons.mp hspaced
      obtain ⟨hspacedHead', hspacedTail'⟩ := List.isChain_cons_cons.mp hspaced'
      have hne : before ≠ '_' := fun heq => hx.no_underscore (heq ▸ List.mem_cons_self)
      have hpart := hx.isNamePart before List.mem_cons_self
      have hcase : isUpper c = isUpper d := by
        rwa [startsWord_eq_isUpper hpart hne hspacedHead,
          startsWord_eq_isUpper hpart hne hspacedHead'] at hstart
      obtain rfl := eq_of_asciiLower_eq hcd hcase
      rw [ih hx.tail hy.tail hspacedTail hspacedTail' hrest hstarts]

end WorldQuery.Name
