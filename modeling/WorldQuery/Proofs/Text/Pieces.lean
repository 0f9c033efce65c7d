import WorldQuery.Text.Blank
import WorldQuery.Text.Pieces
import Mathlib.Data.List.TakeWhile
import Mathlib.Tactic

/-!
# Cutting and trimming

`pieces` undoes joining with a separator, `cutAt` cuts before the first occurrence of a character,
and `trim` gives the core of a text: what is left of it between blanks. `Stripped` says what a core
is without saying how it is found.
-/

namespace WorldQuery.Text

variable {text core before after : List Char}

/-! ### Tables of characters -/

theorem forall_ascii {P : Char → Prop} (h : ∀ n < 128, P (Char.ofNat n)) {c : Char}
    (hc : c.toNat < 128) : P c := by
  have hchar := h c.toNat hc
  rwa [Char.ofNat_toNat] at hchar

theorem forall_blank {P : Char → Prop}
    (h : ∀ r ∈ blankRanges, ∀ k ≤ r.2 - r.1, P (Char.ofNat (r.1 + k))) {c : Char}
    (hc : isBlank c = true) : P c := by
  obtain ⟨r, hr, hlow, hhigh⟩ := (inRanges_iff _ _).mp hc
  have hchar := h r hr (c.toNat - r.1) (by omega)
  rwa [Nat.add_sub_cancel' hlow, Char.ofNat_toNat] at hchar

/-! ### Pieces -/

theorem not_sep_of_mem_pieces {sep : Char → Bool} {piece : List Char}
    (h : piece ∈ pieces sep text) : ∀ c ∈ piece, sep c = false := by
  induction text generalizing piece with
  | nil =>
    obtain rfl : piece = [] := by simpa [pieces] using h
    simp
  | cons c rest ih =>
    rw [pieces] at h
    split_ifs at h with hc
    · rcases List.mem_cons.mp h with rfl | h
      · simp
      · exact ih h
    · cases hpieces : pieces sep rest with
      | nil =>
        obtain rfl : piece = [c] := by simpa [hpieces, extendHead] using h
        simpa using hc
      | cons first others =>
        rw [hpieces, extendHead] at h
        rcases List.mem_cons.mp h with rfl | h
        · intro d hd
          rcases List.mem_cons.mp hd with rfl | hd
          · simpa using hc
          · exact ih (by simp [hpieces]) d hd
        · exact ih (by simp [hpieces, h])

theorem pieces_of_forall_not {sep : Char → Bool}
    (h : ∀ c ∈ text, sep c = false) : pieces sep text = [text] := by
  induction text with
  | nil => rfl
  | cons c rest ih =>
    rw [pieces, h c (by simp), ih fun d hd => h d (by simp [hd])]
    rfl

theorem pieces_eq_splitOnP (sep : Char → Bool) (text : List Char) :
    pieces sep text = text.splitOnP sep := by
  induction text with
  | nil => rw [pieces, List.splitOnP_nil]
  | cons c rest ih =>
    rw [pieces, List.splitOnP_cons_eq_if_modifyHead, ih]
    split_ifs
    · rfl
    · obtain ⟨first, others, hsplit⟩ := List.exists_cons_of_ne_nil (List.splitOnP_ne_nil sep rest)
      rw [hsplit]
      rfl

theorem pieces_ne_nil (sep : Char → Bool) (text : List Char) : pieces sep text ≠ [] := by
  rw [pieces_eq_splitOnP]
  exact List.splitOnP_ne_nil _ _

/-- The texts between the separators are the pieces of a text, and no others. -/
theorem eq_pieces_iff {sep : Char} {parts : List (List Char)} :
    parts = pieces (· == sep) text ↔
      parts ≠ [] ∧ (∀ part ∈ parts, sep ∉ part) ∧ text = [sep].intercalate parts := by
  have hpieces : pieces (· == sep) text = text.splitOn sep := pieces_eq_splitOnP _ _
  rw [hpieces]
  constructor
  · rintro rfl
    refine ⟨List.splitOnP_ne_nil _ _, fun part hpart hsep => ?_,
      (List.intercalate_splitOn sep).symm⟩
    rw [← hpieces] at hpart
    simpa using not_sep_of_mem_pieces hpart sep hsep
  · rintro ⟨hne, hsep, rfl⟩
    exact (List.splitOn_intercalate sep hsep hne).symm

/-! ### The first occurrence of a character -/

theorem cutAt_eq_none_iff {sep : Char} : cutAt sep text = none ↔ sep ∉ text := by
  induction text with
  | nil => simp [cutAt]
  | cons c rest ih =>
    rw [cutAt, List.mem_cons, not_or]
    split_ifs with hc
    · simp [hc]
    · simp [ih, Ne.symm hc]

theorem cutAt_eq_some_iff {sep : Char} :
    cutAt sep text = some (before, after) ↔ text = before ++ sep :: after ∧ sep ∉ before := by
  induction text generalizing before with
  | nil => simp [cutAt]
  | cons c rest ih =>
    rw [cutAt]
    split_ifs with hc
    · subst hc
      cases before with
      | nil => simp [eq_comm]
      | cons d tail => simp +contextual
    · rw [Option.map_eq_some_iff]
      constructor
      · rintro ⟨⟨left, right⟩, hcut, heq⟩
        obtain ⟨rfl, rfl⟩ := Prod.mk.inj heq
        obtain ⟨rfl, hleft⟩ := ih.mp hcut
        exact ⟨rfl, by simp [Ne.symm hc, hleft]⟩
      · rintro ⟨htext, hsep⟩
        cases before with
        | nil => exact absurd (List.cons.inj htext).1 hc
        | cons d tail =>
          obtain ⟨rfl, hrest⟩ := List.cons.inj htext
          exact ⟨(tail, after), ih.mpr ⟨hrest, fun hmem => hsep (List.mem_cons_of_mem _ hmem)⟩, rfl⟩

/-! ### Blanks at the ends -/

/-- A text of blanks, which may be empty. -/
def Blank (text : List Char) : Prop := ∀ c ∈ text, isBlank c = true

/-- A text without blanks at its ends. -/
def Trimmed (text : List Char) : Prop :=
  (∀ c ∈ text.head?, isBlank c = false) ∧ ∀ c ∈ text.getLast?, isBlank c = false

/-- What is left of a text between blanks. -/
def Stripped (text core : List Char) : Prop :=
  ∃ before after, text = before ++ core ++ after ∧ Blank before ∧ Blank after ∧ Trimmed core

theorem Trimmed.of_forall_not (h : ∀ c ∈ text, isBlank c = false) : Trimmed text :=
  ⟨fun c hc => h c (List.mem_of_mem_head? hc), fun c hc => h c (List.mem_of_mem_getLast? hc)⟩

theorem dropWhile_of_head? (h : ∀ c ∈ text.head?, isBlank c = false) :
    text.dropWhile isBlank = text := by
  cases text with
  | nil => rfl
  | cons c rest => simp [h c rfl]

theorem head?_dropWhile (text : List Char) :
    ∀ c ∈ (text.dropWhile isBlank).head?, isBlank c = false := by
  intro c hc
  have hhead := List.head?_dropWhile_not isBlank text
  rw [hc] at hhead
  exact hhead

theorem trim_append (hbefore : Blank before) (hafter : Blank after) :
    trim (before ++ text ++ after) = trim text := by
  have hback : Blank after.reverse := fun c hc => hafter c (List.mem_reverse.mp hc)
  rw [trim, trim, List.append_assoc, List.dropWhile_append_of_pos hbefore]
  by_cases hblank : Blank text
  · rw [List.dropWhile_append_of_pos hblank, List.dropWhile_eq_nil_iff.mpr hblank,
      List.dropWhile_eq_nil_iff.mpr hafter]
  · have hne : (text.dropWhile isBlank).isEmpty = false := by
      rw [← Bool.not_eq_true, List.isEmpty_iff, List.dropWhile_eq_nil_iff]
      exact hblank
    rw [List.dropWhile_append, hne, if_neg Bool.false_ne_true, List.reverse_append,
      List.dropWhile_append_of_pos hback]

theorem Trimmed.trim_eq (h : Trimmed core) : trim core = core := by
  have hlast : ∀ c ∈ core.reverse.head?, isBlank c = false := by
    rw [List.head?_reverse]
    exact h.2
  rw [trim, dropWhile_of_head? h.1, dropWhile_of_head? hlast, List.reverse_reverse]

theorem trim_of_forall_not (h : ∀ c ∈ text, isBlank c = false) : trim text = text :=
  (Trimmed.of_forall_not h).trim_eq

theorem blank_takeWhile (text : List Char) : Blank (text.takeWhile isBlank) :=
  fun _ hc => List.mem_takeWhile_imp hc

theorem stripped_trim (text : List Char) : Stripped text (trim text) := by
  let front := text.dropWhile isBlank
  have hcore : trim text = (front.reverse.dropWhile isBlank).reverse := rfl
  have hfront : trim text ++ (front.reverse.takeWhile isBlank).reverse = front := by
    rw [hcore, ← List.reverse_append, List.takeWhile_append_dropWhile, List.reverse_reverse]
  refine ⟨text.takeWhile isBlank, (front.reverse.takeWhile isBlank).reverse, ?_, ?_, ?_, ?_, ?_⟩
  · rw [List.append_assoc, hfront, List.takeWhile_append_dropWhile]
  · exact blank_takeWhile text
  · exact fun c hc => blank_takeWhile _ c (List.mem_reverse.mp hc)
  · -- the first character of the core is that of the text behind its blanks
    intro c hc
    refine head?_dropWhile text c ?_
    change c ∈ front.head?
    rw [← hfront, List.head?_append]
    simp [Option.mem_def.mp hc]
  · intro c hc
    rw [hcore, List.getLast?_reverse] at hc
    exact head?_dropWhile _ c hc

theorem stripped_iff : Stripped text core ↔ core = trim text := by
  constructor
  · rintro ⟨before, after, rfl, hbefore, hafter, hcore⟩
    rw [trim_append hbefore hafter, hcore.trim_eq]
  · rintro rfl
    exact stripped_trim text

end WorldQuery.Text
