/-!
# Runs of case pairs

A case mapping is carried as runs: the characters from `first` to `last` in steps of `step` all move
by the same `shift`. Characters that map to several are listed apart.
-/

namespace WorldQuery.Text.Case

/-- Characters that change case by one common shift. -/
structure Run where
  first : Nat
  last : Nat
  step : Nat
  shift : Int

def Run.shifted (r : Run) (n : Nat) : Option Nat :=
  if r.first ≤ n ∧ n ≤ r.last ∧ (n - r.first) % r.step = 0 then some ((n : Int) + r.shift).toNat
  else none

def single (runs : List Run) (n : Nat) : Nat := (runs.findSome? (·.shifted n)).getD n

/-- The image of a character: listed images first, then the runs. -/
def image (runs : List Run) (several : List (Nat × List Nat)) (c : Char) : List Char :=
  match several.lookup c.toNat with
  | some ns => ns.map Char.ofNat
  | none => [Char.ofNat (single runs c.toNat)]

end WorldQuery.Text.Case
