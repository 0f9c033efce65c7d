import WorldQuery.Component
import WorldQuery.Proofs.Name.SnakeCase
import WorldQuery.Proofs.Text.Pieces

/-!
# Fields and columns

A field is spelled with capitals where its words start, a column with underscores between them.
Names of small words, all but the first of at least two characters, go from the one spelling to the
other and back without loss: `camelCase_snakeCase`. The capitals are then exactly the places where
words start, since every capital stands between small letters or digits.
-/

namespace WorldQuery.Name

open Number.Binary64 (asciiLower)
open Text Text.Case

/-- A character of some kind, then at least so many small letters and digits (ASCII). -/
def WordOf (first : Char → Bool) (least : Nat) (word : List Char) : Prop :=
  ∃ c rest, word = c :: rest ∧ first c = true ∧ least ≤ rest.length ∧
    ∀ d ∈ rest, isLowerOrDigit d = true

/-- A name in the spelling of fields: a small word, then words with a capital in front. -/
def CamelName (name : List Char) : Prop :=
  ∃ (head : List Char) (words : List (List Char)), WordOf isLower 0 head ∧
    (∀ word ∈ words, WordOf isUpper 1 word) ∧ name = head ++ words.flatten

/-- A name in the spelling of columns: small words with one underscore between them. -/
def SnakeName (name : List Char) : Prop :=
  ∃ (head : List Char) (words : List (List Char)), WordOf isLower 0 head ∧
    (∀ word ∈ words, WordOf isLower 1 word) ∧ name = ['_'].intercalate (head :: words)

variable {c d : Char} {least : Nat} {word head rest : List Char} {words : List (List Char)}

/-! ### Characters -/

theorem isLowerOrDigit_of_isLower (h : isLower c = true) : isLowerOrDigit c = true :=
  Bool.or_eq_true_iff.mpr (Or.inl h)

theorem isLower_iff : isLower c = true ↔ 0x61 ≤ c.toNat ∧ c.toNat ≤ 0x7A := by
  simp only [isLower, Bool.and_eq_true, decide_eq_true_eq]
  rfl

theorem isLowerOrDigit_iff :
    isLowerOrDigit c = true ↔
      (0x61 ≤ c.toNat ∧ c.toNat ≤ 0x7A) ∨ 0x30 ≤ c.toNat ∧ c.toNat ≤ 0x39 := by
  simp only [isLowerOrDigit, Bool.or_eq_true, Bool.and_eq_true, decide_eq_true_eq]
  rfl

theorem of_isLowerOrDigit (h : isLowerOrDigit c = true) :
    isUpper c = false ∧ c ≠ '_' ∧ asciiLower c = c ∧ Layout.isNamePart c = true := by
  have hcode := isLowerOrDigit_iff.mp h
  have hupper : isUpper c = false := by
    rw [← Bool.not_eq_true, isUpper_iff]
    omega
  refine ⟨hupper, ?_, asciiLower_of_not_isUpper hupper, ?_⟩
  · rintro rfl
    exact absurd h (by decide)
  · rw [Layout.isNamePart_iff, Layout.isNameStart_iff]
    omega

theorem exists_capital_of_isLower (h : isLower c = true) :
    ∃ d, upperImage c = [d] ∧ isUpper d = true ∧ asciiLower d = c :=
  ⟨Char.ofNat (c.toNat - 32), forall_ascii (P := fun c => isLower c = true →
      upperImage c = [Char.ofNat (c.toNat - 32)] ∧ isUpper (Char.ofNat (c.toNat - 32)) = true ∧
        asciiLower (Char.ofNat (c.toNat - 32)) = c)
    (by decide +kernel) (by have hcode := isLower_iff.mp h; omega) h⟩

theorem of_isUpper (h : isUpper c = true) :
    isLower (asciiLower c) = true ∧ upperImage (asciiLower c) = [c] ∧ c ≠ '_' ∧
      Layout.isNamePart c = true := by
  have hcode := isUpper_iff.mp h
  have hsmall : isLower (asciiLower c) = true := by
    rw [isLower_iff, toNat_asciiLower h]
    omega
  obtain ⟨d, himage, hd, hlower⟩ := exists_capital_of_isLower hsmall
  obtain rfl : d = c := eq_of_asciiLower_eq hlower (hd.trans h.symm)
  refine ⟨hsmall, himage, ?_, ?_⟩
  · rintro rfl
    exact absurd h (by decide)
  · rw [Layout.isNamePart_iff, Layout.isNameStart_iff]
    omega

/-! ### Words -/

theorem map_asciiLower_of_small (h : ∀ d ∈ word, isLowerOrDigit d = true) :
    word.map asciiLower = word := by
  rw [List.map_congr_left fun d hd => (of_isLowerOrDigit (h d hd)).2.2.1, List.map_id']

theorem WordOf.small (h : WordOf isLower least word) : ∀ d ∈ word, isLowerOrDigit d = true := by
  obtain ⟨c, rest, rfl, hc, -, hrest⟩ := h
  exact List.forall_mem_cons.mpr ⟨isLowerOrDigit_of_isLower hc, hrest⟩

theorem WordOf.ne_nil {first : Char → Bool} (h : WordOf first least word) : word ≠ [] := by
  obtain ⟨c, rest, rfl, -⟩ := h
  exact List.cons_ne_nil c rest

theorem WordOf.capitalize (h : WordOf isLower least word) :
    WordOf isUpper least (capitalize word) ∧ (Name.capitalize word).map asciiLower = word := by
  obtain ⟨c, rest, rfl, hc, hlength, hrest⟩ := h
  obtain ⟨d, himage, hupper, rfl⟩ := exists_capital_of_isLower hc
  have hcapital : Name.capitalize (asciiLower d :: rest) = d :: rest := by
    simp [Name.capitalize, upper, himage]
  rw [hcapital, List.map_cons, map_asciiLower_of_small hrest]
  exact ⟨⟨d, rest, rfl, hupper, hlength, hrest⟩, rfl⟩

theorem WordOf.lower (h : WordOf isUpper least word) :
    WordOf isLower least (word.map asciiLower) ∧
      Name.capitalize (word.map asciiLower) = word := by
  obtain ⟨c, rest, rfl, hc, hlength, hrest⟩ := h
  obtain ⟨hlower, himage, -⟩ := of_isUpper hc
  rw [List.map_cons, map_asciiLower_of_small hrest]
  refine ⟨⟨_, rest, rfl, hlower, hlength, hrest⟩, ?_⟩
  simp [Name.capitalize, upper, himage]

theorem WordOf.isNamePart (h : WordOf isUpper least word) :
    ∀ d ∈ word, Layout.isNamePart d = true := by
  obtain ⟨c, rest, rfl, hc, -, hrest⟩ := h
  exact List.forall_mem_cons.mpr
    ⟨(of_isUpper hc).2.2.2, fun d hd => (of_isLowerOrDigit (hrest d hd)).2.2.2⟩

/-! ### Where words start -/

theorem startsWord_of_small (before : Char) (rest : List Char) (h : isLowerOrDigit c = true) :
    startsWord before c rest = false := by
  rw [startsWord, (of_isLowerOrDigit h).1, Bool.false_and]

/-- No word starts inside a small one. -/
theorem markWords_of_small (h : ∀ d ∈ word, isLowerOrDigit d = true) : markWords word = word := by
  induction word using markWords.induct with
  | case1 => rfl
  | case2 d => rfl
  | case3 before d rest hstart ih =>
    rw [startsWord_of_small _ _ (h d (by simp))] at hstart
    cases hstart
  | case4 before d rest hstart ih =>
    rw [markWords, if_neg hstart, ih fun e he => h e (List.mem_cons_of_mem _ he)]

/-- A word starts at a capital after a small one. -/
theorem markWords_append_capital (hne : word ≠ []) (h : ∀ d ∈ word, isLowerOrDigit d = true)
    (hc : isUpper c = true) (rest : List Char) :
    markWords (word ++ c :: rest) = word ++ '_' :: markWords (c :: rest) := by
  induction word with
  | nil => exact absurd rfl hne
  | cons before tail ih =>
    obtain ⟨hbefore, htail⟩ := List.forall_mem_cons.mp h
    cases tail with
    | nil =>
      have hstart : startsWord before c rest = true := by simp [startsWord, hc, hbefore]
      exact markWords_cons before c rest ▸ if_pos hstart
    | cons d tail =>
      have hinside := startsWord_of_small before (tail ++ c :: rest) (htail d (by simp))
      have hmarked := ih (by simp) htail
      simp only [List.cons_append] at hmarked ⊢
      rw [markWords_cons, if_neg (by simp [hinside]), hmarked]

theorem markWords_capital (hd : isLowerOrDigit d = true) (rest : List Char) :
    markWords (c :: d :: rest) = c :: markWords (d :: rest) := by
  rw [markWords_cons, if_neg (by simp [startsWord_of_small c rest hd])]

theorem markWords_words (hne : head ≠ []) (hhead : ∀ d ∈ head, isLowerOrDigit d = true)
    (hwords : ∀ word ∈ words, WordOf isUpper 1 word) :
    markWords (head ++ words.flatten) = ['_'].intercalate (head :: words) := by
  induction words generalizing head with
  | nil => simpa using markWords_of_small hhead
  | cons word later ih =>
    obtain ⟨⟨c, tail, rfl, hc, hlength, htail⟩, hlater⟩ := List.forall_mem_cons.mp hwords
    obtain ⟨d, tail, rfl⟩ := List.exists_cons_of_length_pos hlength
    have hrest := ih (by simp) htail hlater
    rw [List.cons_append] at hrest
    rw [List.flatten_cons, List.cons_append, List.cons_append,
      markWords_append_capital hne hhead hc, markWords_capital (htail d (by simp)), hrest]
    cases later <;> simp [List.intercalate]

/-! ### Between the spellings -/

theorem map_intercalate (f : Char → Char) (sep : List Char) (parts : List (List Char)) :
    (sep.intercalate parts).map f = (sep.map f).intercalate (parts.map (List.map f)) := by
  induction parts with
  | nil => rfl
  | cons first rest ih =>
    cases rest with
    | nil => simp [List.intercalate]
    | cons second rest =>
      simp only [List.intercalate, List.intersperse_cons_cons, List.map_cons, List.flatten_cons,
        List.map_append] at ih ⊢
      rw [ih]

theorem snakeChars_words (hhead : WordOf isLower 0 head)
    (hwords : ∀ word ∈ words, WordOf isUpper 1 word) :
    snakeChars (head ++ words.flatten) =
      ['_'].intercalate (head :: words.map (List.map asciiLower)) := by
  have hparts : ∀ d ∈ head ++ words.flatten, Layout.isNamePart d = true := by
    refine List.forall_mem_append.mpr ⟨fun d hd => (of_isLowerOrDigit (hhead.small d hd)).2.2.2, ?_⟩
    intro d hd
    obtain ⟨word, hword, hd⟩ := List.mem_flatten.mp hd
    exact (hwords word hword).isNamePart d hd
  have hunderscore : asciiLower '_' = '_' := rfl
  rw [snakeChars_eq_map hparts, markWords_words hhead.ne_nil hhead.small hwords, map_intercalate,
    List.map_singleton, hunderscore, List.map_cons, map_asciiLower_of_small hhead.small]

theorem camelChars_words (hhead : WordOf isLower 0 head)
    (hwords : ∀ word ∈ words, WordOf isLower 1 word) :
    camelChars (['_'].intercalate (head :: words)) = head ++ (words.map capitalize).flatten := by
  have hfree {least : Nat} {word : List Char} (h : WordOf isLower least word) : '_' ∉ word :=
    fun hmem => (of_isLowerOrDigit (h.small _ hmem)).2.1 rfl
  have hpieces : head :: words = pieces (· == '_') (['_'].intercalate (head :: words)) :=
    eq_pieces_iff.mpr ⟨by simp, List.forall_mem_cons.mpr
      ⟨hfree hhead, fun word hword => hfree (hwords word hword)⟩, rfl⟩
  rw [camelChars, ← hpieces]

theorem capitalize_words (h : ∀ word ∈ words, WordOf isLower 1 word) :
    (∀ word ∈ words.map capitalize, WordOf isUpper 1 word) ∧
      (words.map capitalize).map (List.map asciiLower) = words := by
  refine ⟨List.forall_mem_map.mpr fun word hword => (h word hword).capitalize.1, ?_⟩
  rw [List.map_map]
  exact (List.map_congr_left fun word hword => (h word hword).capitalize.2).trans (List.map_id _)

theorem lower_words (h : ∀ word ∈ words, WordOf isUpper 1 word) :
    (∀ word ∈ words.map (List.map asciiLower), WordOf isLower 1 word) ∧
      (words.map (List.map asciiLower)).map capitalize = words := by
  refine ⟨List.forall_mem_map.mpr fun word hword => (h word hword).lower.1, ?_⟩
  rw [List.map_map]
  exact (List.map_congr_left fun word hword => (h word hword).lower.2).trans (List.map_id _)

/-- The column of a field is spelled like a column and names the field again, and so the other way
round. -/
theorem camelCase_snakeCase :
    (∀ field : String, CamelName field.toList →
      SnakeName (snakeCase field).toList ∧ camelCase (snakeCase field) = field) ∧
    ∀ column : String, SnakeName column.toList →
      CamelName (camelCase column).toList ∧ snakeCase (camelCase column) = column := by
  constructor
  · rintro field ⟨head, words, hhead, hwords, hfield⟩
    obtain ⟨hsmall, hback⟩ := lower_words hwords
    rw [snakeCase, camelCase, String.toList_ofList, hfield, snakeChars_words hhead hwords]
    refine ⟨⟨head, _, hhead, hsmall, rfl⟩, ?_⟩
    rw [camelChars_words hhead hsmall, hback, ← hfield, String.ofList_toList]
  · rintro column ⟨head, words, hhead, hwords, hcolumn⟩
    obtain ⟨hcapitals, hback⟩ := capitalize_words hwords
    rw [camelCase, snakeCase, String.toList_ofList, hcolumn, camelChars_words hhead hwords]
    refine ⟨⟨head, _, hhead, hcapitals, rfl⟩, ?_⟩
    rw [snakeChars_words hhead hcapitals, hback, ← hcolumn, String.ofList_toList]

theorem wordOf_cons_iff {first : Char → Bool} :
    WordOf first least (c :: rest) ↔
      (first c && decide (least ≤ rest.length) && rest.all isLowerOrDigit) = true := by
  simp only [WordOf, List.cons.injEq, Bool.and_eq_true, decide_eq_true_eq, List.all_eq_true]
  constructor
  · rintro ⟨_, _, ⟨rfl, rfl⟩, hc, hlength, hrest⟩
    exact ⟨⟨hc, hlength⟩, hrest⟩
  · rintro ⟨⟨hc, hlength⟩, hrest⟩
    exact ⟨c, rest, ⟨rfl, rfl⟩, hc, hlength, hrest⟩

instance decidableWordOf (first : Char → Bool) (least : Nat) (word : List Char) :
    Decidable (WordOf first least word) :=
  match word with
  | [] => .isFalse fun h => h.ne_nil rfl
  | _ :: _ => decidable_of_iff' _ wordOf_cons_iff

/-- The columns of components and their fields name each other; digits belong to the words before
them. -/
theorem columns_of_components :
    Component.columns = (Assoc.keys Component.fields).map snakeCase ∧
      (∀ field ∈ Assoc.keys Component.fields, camelCase (snakeCase field) = field) ∧
      (∀ column ∈ Component.columns, snakeCase (camelCase column) = column) ∧
      camelCase (snakeCase "level2Hp9x") = "level2Hp9x" := by
  have hcolumns : Component.columns = (Assoc.keys Component.fields).map snakeCase := by
    have hnames : ((Assoc.keys Component.fields).all fun field =>
        field.toList.all Layout.isNamePart) = true := by decide
    have hmarked : ∀ field ∈ Assoc.keys Component.fields,
        snakeCase field = String.ofList ((markWords field.toList).map asciiLower) :=
      fun field hfield => congrArg String.ofList
        (snakeChars_eq_map (List.all_eq_true.mp (List.all_eq_true.mp hnames field hfield)))
    rw [List.map_congr_left hmarked]
    decide
  have hfields : ∀ field ∈ Assoc.keys Component.fields, CamelName field.toList := by
    simp only [Assoc.keys, Component.fields, List.map_cons, List.map_nil, List.forall_mem_cons]
    exact ⟨⟨"id".toList, [], by decide, by simp, rfl⟩,
      ⟨"name".toList, [], by decide, by simp, rfl⟩,
      ⟨"address".toList, [], by decide, by simp, rfl⟩,
      ⟨"class".toList, ["Hash".toList], by decide, by decide, rfl⟩,
      ⟨"transaction".toList, ["Hash".toList], by decide, by decide, rfl⟩,
      ⟨"storage".toList, ["Definition".toList], by decide, by decide, rfl⟩,
      ⟨"created".toList, ["At".toList], by decide, by decide, rfl⟩, by simp⟩
  have hdigits : CamelName "level2Hp9x".toList :=
    ⟨"level2".toList, ["Hp9x".toList], by decide, by decide, rfl⟩
  obtain ⟨hcamel, hsnake⟩ := camelCase_snakeCase
  refine ⟨hcolumns, fun field hfield => (hcamel field (hfields field hfield)).2, ?_,
    (hcamel _ hdigits).2⟩
  rw [hcolumns]
  refine List.forall_mem_map.mpr fun field hfield => (hsnake _ ?_).2
  exact (hcamel field (hfields field hfield)).1

end WorldQuery.Name
