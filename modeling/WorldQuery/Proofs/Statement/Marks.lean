import WorldQuery.Statement
import Mathlib.Data.List.TakeWhile
import Mathlib.Tactic

/-!
# Marks, backslashes and quotes

The reading of a statement looks for the marks of parameters, then for backslashes before colons,
and then for names between quotes. Quotes and blanks end what a mark or a backslash reaches, so each
of these readings can be taken name by name.
-/

namespace WorldQuery.Statement

/-- A name as the store reads it in a statement. -/
def spelled (name : String) : String := String.ofList (unescaped name.toList)

/-! ### Characters that end a name -/

section Stop

variable {p : Char → Bool} {b : Char}

theorem takeWhile_append_stop (hb : p b = false) (xs ys : List Char) :
    (xs ++ b :: ys).takeWhile p = xs.takeWhile p := by
  induction xs with
  | nil => simp [hb]
  | cons x xs ih => simp only [List.cons_append, List.takeWhile_cons, ih]

theorem dropWhile_append_stop (hb : p b = false) (xs ys : List Char) :
    (xs ++ b :: ys).dropWhile p = xs.dropWhile p ++ b :: ys := by
  induction xs with
  | nil => simp [hb]
  | cons x xs ih =>
    simp only [List.cons_append, List.dropWhile_cons, ih]
    split_ifs <;> rfl

theorem head?_append_stop (hb : b ≠ ':') (xs ys : List Char) :
    (xs ++ b :: ys).head? = some ':' ↔ xs.head? = some ':' := by
  cases xs <;> simp [hb]

end Stop

/-! ### Marks -/

/-- Whether a mark starts at a colon with the given text behind it. -/
def StartsMark (last c : Char) (rest : List Char) : Prop :=
  c = ':' ∧ !hidesDeclaration last ∧ last ≠ '$' ∧ !(rest.takeWhile isMarkChar).isEmpty ∧
    (rest.dropWhile isMarkChar).head? ≠ some ':'

theorem parts_cons_of_mark {last c : Char} {rest : List Char} (h : StartsMark last c rest) :
    parts last (c :: rest) =
      .mark (String.ofList (rest.takeWhile isMarkChar)) ::
        parts c (rest.dropWhile isMarkChar) := by
  rw [parts]
  exact if_pos h

theorem parts_cons_of_plain {last c : Char} {rest : List Char} (h : ¬StartsMark last c rest) :
    parts last (c :: rest) = .plain c :: parts c rest := by
  rw [parts]
  exact if_neg h

theorem not_isMarkChar {c : Char} (h : c ∈ [' ', '"', '%', ':', ')', '\\']) :
    isMarkChar c = false := by
  have htable : ([' ', '"', '%', ':', ')', '\\'].all fun c => !isMarkChar c) = true := by
    decide +kernel
  simpa using List.all_eq_true.mp htable c h

theorem startsMark_append_blank_iff {last c : Char} {rest more : List Char} :
    StartsMark last c (rest ++ ' ' :: more) ↔ StartsMark last c rest := by
  have hblank : isMarkChar ' ' = false := not_isMarkChar (by decide)
  unfold StartsMark
  rw [takeWhile_append_stop hblank, dropWhile_append_stop hblank, ne_eq, ne_eq,
    head?_append_stop (by decide)]

theorem parts_append_blank (last : Char) (text more : List Char) :
    parts last (text ++ ' ' :: more) = parts last text ++ .plain ' ' :: parts ' ' more := by
  have hblank : isMarkChar ' ' = false := not_isMarkChar (by decide)
  induction last, text using parts.induct with
  | case1 last =>
    have hplain : ¬StartsMark last ' ' more := fun h => absurd h.1 (by decide)
    simp [parts_cons_of_plain hplain, parts]
  | case2 last c rest name left h ih =>
    have hmark : StartsMark last c rest := h
    rw [List.cons_append, parts_cons_of_mark (startsMark_append_blank_iff.mpr hmark),
      parts_cons_of_mark hmark, takeWhile_append_stop hblank, dropWhile_append_stop hblank, ih]
    rfl
  | case3 last c rest name left h ih =>
    have hplain : ¬StartsMark last c rest := h
    rw [List.cons_append, parts_cons_of_plain (mt startsMark_append_blank_iff.mp hplain),
      parts_cons_of_plain hplain, ih]
    rfl

theorem mark_mem_parts {last : Char} {text : List Char} {name : String}
    (h : .mark name ∈ parts last text) :
    name.toList ≠ [] ∧ ∀ c ∈ name.toList, isMarkChar c = true := by
  induction last, text using parts.induct with
  | case1 last => simp [parts] at h
  | case2 last c rest run left hcond ih =>
    have hmark : StartsMark last c rest := hcond
    rw [parts_cons_of_mark hmark] at h
    rcases List.mem_cons.mp h with heq | h
    · obtain rfl := Part.mark.inj heq
      rw [String.toList_ofList]
      refine ⟨by simpa using hmark.2.2.2.1, fun c hc => ?_⟩
      exact List.mem_takeWhile_imp hc
    · exact ih h
  | case3 last c rest run left hcond ih =>
    have hplain : ¬StartsMark last c rest := hcond
    rw [parts_cons_of_plain hplain] at h
    rcases List.mem_cons.mp h with heq | h
    · simp at heq
    · exact ih h

theorem withPlaces_of_no_marks {last : Char} {text : List Char}
    (h : ∀ name, .mark name ∉ parts last text) : withPlaces (parts last text) = text := by
  induction last, text using parts.induct with
  | case1 last => simp [parts, withPlaces]
  | case2 last c rest run left hcond ih =>
    have hmark : StartsMark last c rest := hcond
    rw [parts_cons_of_mark hmark] at h
    exact absurd List.mem_cons_self (h _)
  | case3 last c rest run left hcond ih =>
    have hplain : ¬StartsMark last c rest := hcond
    rw [parts_cons_of_plain hplain] at h ⊢
    have hrest := ih fun name hname => h name (List.mem_cons_of_mem _ hname)
    rw [withPlaces] at hrest ⊢
    rw [List.flatMap_cons, hrest]
    rfl

/-! ### Backslashes -/

theorem unescaped_cons_of_ne {c : Char} (h : c ≠ '\\') (rest : List Char) :
    unescaped (c :: rest) = c :: unescaped rest := by
  rw [unescaped]
  exact fun rest' heq => absurd heq h

theorem unescaped_of_not_mem {text : List Char} (h : '\\' ∉ text) (rest : List Char) :
    unescaped (text ++ rest) = text ++ unescaped rest := by
  induction text with
  | nil => rfl
  | cons c text ih =>
    rw [List.cons_append, unescaped_cons_of_ne (fun heq => h (heq ▸ List.mem_cons_self)),
      ih fun hmem => h (List.mem_cons_of_mem c hmem)]
    rfl

/-- Characters that end a mark end the text that decides over a backslash. -/
theorem unescaped_append_stop {b : Char} (hmark : isMarkChar b = false) (hcolon : b ≠ ':')
    (hslash : b ≠ '\\') (text rest : List Char) :
    unescaped (text ++ b :: rest) = unescaped text ++ b :: unescaped rest := by
  induction text using unescaped.induct with
  | case1 text h ih =>
    have h' : ((text ++ b :: rest).dropWhile isMarkChar).head? = some ':' := by
      rw [dropWhile_append_stop hmark]
      exact (head?_append_stop hcolon _ _).mpr h
    rw [List.cons_append, List.cons_append, unescaped, unescaped, if_pos h, if_pos h']
    exact congrArg ('\\' :: ·) ih
  | case2 text h ih =>
    have h' : ((text ++ b :: rest).dropWhile isMarkChar).head? ≠ some ':' := by
      rw [dropWhile_append_stop hmark]
      exact mt (head?_append_stop hcolon _ _).mp h
    rw [List.cons_append, List.cons_append, unescaped, unescaped, if_neg h, if_neg h', ih]
    rfl
  | case3 c text h ih =>
    have h' : ∀ rest', c = '\\' → text ++ b :: rest = ':' :: rest' → False := by
      intro rest' hc heq
      cases text with
      | nil => exact hcolon (List.cons.inj heq).1
      | cons d text => exact h text hc (by rw [(List.cons.inj heq).1])
    rw [List.cons_append, unescaped.eq_2 _ _ h, unescaped.eq_2 _ _ h', ih]
    rfl
  | case4 => simp [unescaped, unescaped_cons_of_ne hslash]

/-- Characters of marks at the end of a text do not decide over a backslash. -/
theorem unescaped_append_marks {tail : List Char} (h : ∀ c ∈ tail, isMarkChar c = true)
    (text : List Char) : unescaped (text ++ tail) = unescaped text ++ tail := by
  have hhead (rest : List Char) : ((rest ++ tail).dropWhile isMarkChar).head? =
      (rest.dropWhile isMarkChar).head? := by
    rw [List.dropWhile_append]
    split_ifs with hempty
    · rw [List.isEmpty_iff.mp hempty, List.dropWhile_eq_nil_iff.mpr h]
    · cases hdrop : rest.dropWhile isMarkChar with
      | nil => simp [hdrop] at hempty
      | cons c left => rfl
  have hstop {c : Char} (hc : c ∈ [' ', '"', '%', ':', ')', '\\']) : c ∉ tail := fun hmem =>
    absurd (h c hmem) (by simp [not_isMarkChar hc])
  have hcolon : ':' ∉ tail := hstop (by decide)
  have hslash : '\\' ∉ tail := hstop (by decide)
  induction text using unescaped.induct with
  | case1 text hkeep ih =>
    rw [List.cons_append, List.cons_append, unescaped, unescaped, hhead, if_pos hkeep, if_pos hkeep]
    exact congrArg ('\\' :: ·) ih
  | case2 text hdrop ih =>
    rw [List.cons_append, List.cons_append, unescaped, unescaped, hhead, if_neg hdrop,
      if_neg hdrop, ih]
    rfl
  | case3 c text hplain ih =>
    have hplain' : ∀ rest, c = '\\' → text ++ tail = ':' :: rest → False := by
      intro rest hc heq
      cases text with
      | nil =>
        have htail : tail = ':' :: rest := heq
        exact hcolon (htail ▸ List.mem_cons_self)
      | cons d text => exact hplain text hc (by rw [(List.cons.inj heq).1])
    rw [List.cons_append, unescaped.eq_2 _ _ hplain, unescaped.eq_2 _ _ hplain', ih]
    rfl
  | case4 =>
    have htail := unescaped_of_not_mem hslash []
    simpa [unescaped] using htail

theorem unescaped_sublist (text : List Char) : (unescaped text).Sublist text := by
  induction text using unescaped.induct with
  | case1 text hkeep ih =>
    rw [unescaped, if_pos hkeep]
    exact ih.cons_cons '\\'
  | case2 text hdrop ih =>
    rw [unescaped, if_neg hdrop]
    exact (ih.cons_cons ':').cons '\\'
  | case3 c text hplain ih =>
    rw [unescaped.eq_2 _ _ hplain]
    exact ih.cons_cons c
  | case4 => simp [unescaped]

/-- What a name becomes between quotes: a quote is written twice. -/
def doubled (text : List Char) : List Char :=
  text.flatMap fun c => if c = '"' then ['"', '"'] else [c]

theorem quotedName_append (name : String) (rest : List Char) :
    quotedName name ++ rest = '"' :: (doubled name.toList ++ '"' :: rest) := by
  simp [quotedName, doubled]

theorem doubled_cons_quote (text : List Char) :
    doubled ('"' :: text) = '"' :: '"' :: doubled text := rfl

theorem doubled_cons_of_ne {c : Char} (h : c ≠ '"') (text : List Char) :
    doubled (c :: text) = c :: doubled text := by
  simp [doubled, h]

theorem head?_doubled (text : List Char) : (doubled text).head? = text.head? := by
  cases text with
  | nil => rfl
  | cons c text =>
    by_cases h : c = '"'
    · rw [h, doubled_cons_quote]
      rfl
    · rw [doubled_cons_of_ne h]
      rfl

theorem head?_dropWhile_doubled (text : List Char) :
    ((doubled text).dropWhile isMarkChar).head? = (text.dropWhile isMarkChar).head? := by
  have hquote : isMarkChar '"' = false := not_isMarkChar (by decide)
  induction text with
  | nil => rfl
  | cons c text ih =>
    by_cases h : c = '"'
    · rw [h, doubled_cons_quote, List.dropWhile_cons_of_neg (by simp [hquote]),
        List.dropWhile_cons_of_neg (by simp [hquote])]
      rfl
    · rw [doubled_cons_of_ne h, List.dropWhile_cons, List.dropWhile_cons]
      split_ifs
      · exact ih
      · rfl

theorem unescaped_doubled (text : List Char) :
    unescaped (doubled text) = doubled (unescaped text) := by
  induction text using unescaped.induct with
  | case1 text h ih =>
    have h' : ((doubled text).dropWhile isMarkChar).head? = some ':' := by
      rw [head?_dropWhile_doubled, h]
    rw [doubled_cons_of_ne (by decide)] at ih
    rw [doubled_cons_of_ne (by decide), doubled_cons_of_ne (by decide), unescaped, unescaped,
      if_pos h, if_pos h', ih, doubled_cons_of_ne (by decide)]
  | case2 text h ih =>
    have h' : ((doubled text).dropWhile isMarkChar).head? ≠ some ':' := by
      rwa [head?_dropWhile_doubled]
    rw [doubled_cons_of_ne (by decide), doubled_cons_of_ne (by decide), unescaped, unescaped,
      if_neg h, if_neg h', ih, doubled_cons_of_ne (by decide)]
  | case3 c text h ih =>
    rw [unescaped.eq_2 _ _ h]
    by_cases hquote : c = '"'
    · subst hquote
      rw [doubled_cons_quote, doubled_cons_quote, unescaped_cons_of_ne (by decide),
        unescaped_cons_of_ne (by decide), ih]
    · have h' : ∀ rest', c = '\\' → doubled text = ':' :: rest' → False := by
        intro rest' hc heq
        have hhead : text.head? = some ':' := by
          rw [← head?_doubled, heq]
          rfl
        obtain ⟨rest, rfl⟩ := List.head?_eq_some_iff.mp hhead
        exact h rest hc rfl
      rw [doubled_cons_of_ne hquote, doubled_cons_of_ne hquote, unescaped.eq_2 _ _ h', ih]
  | case4 => simp [doubled, unescaped]

theorem unescaped_quotedName_append (name : String) (rest : List Char) :
    unescaped (quotedName name ++ rest) = quotedName (spelled name) ++ unescaped rest := by
  have hquote : isMarkChar '"' = false := not_isMarkChar (by decide)
  rw [quotedName_append, quotedName_append, unescaped_cons_of_ne (by decide),
    unescaped_append_stop hquote (by decide) (by decide), unescaped_doubled, spelled,
    String.toList_ofList]

/-! ### Names between quotes -/

theorem quotedNames_of_not_mem {text : List Char} (h : '"' ∉ text) (rest : List Char) :
    quotedNames none (text ++ rest) = quotedNames none rest := by
  induction text with
  | nil => rfl
  | cons c text ih =>
    have hc : c ≠ '"' := fun heq => h (heq ▸ List.mem_cons_self)
    rw [List.cons_append, quotedNames, if_neg hc]
    exact ih fun hmem => h (List.mem_cons_of_mem c hmem)

theorem quotedNames_doubled {rest : List Char} (hrest : rest.head? ≠ some '"') (name : List Char)
    (text : List Char) :
    quotedNames (some name) (doubled text ++ '"' :: rest) =
      String.ofList (name.reverse ++ text) :: quotedNames none rest := by
  induction text generalizing name with
  | nil =>
    have hend : ∀ rest', '"' = '"' → rest = '"' :: rest' → False := by
      intro rest' _ heq
      simp [heq] at hrest
    rw [show doubled [] = [] from rfl, List.nil_append, quotedNames.eq_5 _ _ _ hend, if_pos rfl,
      List.append_nil]
  | cons c text ih =>
    by_cases hc : c = '"'
    · subst hc
      rw [doubled_cons_quote, List.cons_append, List.cons_append, quotedNames, ih]
      simp
    · have hne : ∀ rest', c = '"' → doubled text ++ '"' :: rest = '"' :: rest' → False :=
        fun _ heq _ => hc heq
      rw [doubled_cons_of_ne hc, List.cons_append, quotedNames.eq_5 _ _ _ hne, if_neg hc, ih]
      simp

theorem quotedNames_quotedName_append (name : String) {rest : List Char}
    (hrest : rest.head? ≠ some '"') :
    quotedNames none (quotedName name ++ rest) = name :: quotedNames none rest := by
  rw [quotedName_append, quotedNames, if_pos rfl, quotedNames_doubled hrest, List.reverse_nil,
    List.nil_append, String.ofList_toList]

end WorldQuery.Statement
