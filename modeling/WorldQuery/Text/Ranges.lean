/-!
# Sets of characters given by ranges

A Unicode property is carried as a list of closed ranges of code points, ascending and apart.
Membership is decided by one scan; `inRanges_iff` says what it decides.
-/

namespace WorldQuery.Text

def inRanges : List (Nat × Nat) → Nat → Bool
  | [], _ => false
  | (lo, hi) :: rest, n => (decide (lo ≤ n) && decide (n ≤ hi)) || inRanges rest n

theorem inRanges_iff (ranges : List (Nat × Nat)) (n : Nat) :
    inRanges ranges n = true ↔ ∃ r ∈ ranges, r.1 ≤ n ∧ n ≤ r.2 := by
  induction ranges with
  | nil => simp [inRanges]
  | cons r rest ih => simp [inRanges, ih]

end WorldQuery.Text
