import WorldQuery.Name
import Mathlib.Tactic

/-!
# Texts in quotes

`unquote` takes one pair of equal quotes off a text that is wrapped in them, and leaves every other
text as it is.
-/

namespace WorldQuery.Name

/-- A text is another one between two equal quotes. -/
def Wraps (text inner : String) : Prop :=
  ∃ mark, (mark = '"' ∨ mark = '\'') ∧ text.toList = mark :: (inner.toList ++ [mark])

def Wrapped (text : String) : Prop := ∃ inner, Wraps text inner

variable {text inner : String}

theorem unquote_of_wraps (h : Wraps text inner) : unquote text = inner := by
  obtain ⟨mark, hmark, htext⟩ := h
  have hquote : (mark == '"' || mark == '\'') = true := by simpa using hmark
  have hlast : (inner.toList ++ [mark]).getLast? = some mark := by simp
  rw [unquote, htext, unquoteChars, hlast]
  simp [hquote]

theorem unquote_of_not_wrapped (h : ¬Wrapped text) : unquote text = text := by
  rw [unquote, ← String.toList_inj, String.toList_ofList]
  cases htext : text.toList with
  | nil => rfl
  | cons mark rest =>
    have hcond : ((mark == '"' || mark == '\'') && rest.getLast? == some mark) = false := by
      rw [← Bool.not_eq_true, Bool.and_eq_true, beq_iff_eq]
      rintro ⟨hquote, hlast⟩
      obtain ⟨middle, rfl⟩ := List.getLast?_eq_some_iff.mp hlast
      refine h ⟨String.ofList middle, mark, by simpa using hquote, ?_⟩
      rw [htext, String.toList_ofList]
    rw [unquoteChars, hcond]
    rfl

theorem unquote_eq_iff :
    unquote text = inner ↔ Wraps text inner ∨ ¬Wrapped text ∧ text = inner := by
  constructor
  · rintro rfl
    by_cases hwrapped : Wrapped text
    · obtain ⟨inner, hinner⟩ := hwrapped
      exact Or.inl (unquote_of_wraps hinner ▸ hinner)
    · exact Or.inr ⟨hwrapped, (unquote_of_not_wrapped hwrapped).symm⟩
  · rintro (hwraps | ⟨hwrapped, rfl⟩)
    · exact unquote_of_wraps hwraps
    · exact unquote_of_not_wrapped hwrapped

theorem not_wraps_self : ¬Wraps text text := by
  rintro ⟨mark, -, htext⟩
  have hlength := congrArg List.length htext
  simp only [List.length_cons, List.length_append, List.length_nil] at hlength
  omega

theorem unquote_eq_self_iff : unquote text = text ↔ ¬Wrapped text := by
  simp [unquote_eq_iff, not_wraps_self]

end WorldQuery.Name
