/-!
# Digits in a base

Numbers are written most significant digit first, with lower-case letters after nine. `valueRev`
reads a digit list back, and `valueRev_digitsRev` says that nothing is lost.
-/

namespace WorldQuery.Number

/-- Digits of `n`, least significant first; the first argument bounds their number. -/
def digitsRev (base : Nat) : Nat → Nat → List Nat
  | 0, _ => []
  | room + 1, n => if n < base then [n] else n % base :: digitsRev base room (n / base)

/-- The number that a digit list, least significant first, stands for. -/
def valueRev (base : Nat) : List Nat → Nat
  | [] => 0
  | d :: ds => d + base * valueRev base ds

/-- The digits of `n`, most significant first. A number below `2 ^ k` has at most `k` digits. -/
def digits (base n : Nat) : List Nat := (digitsRev base (n.log2 + 1) n).reverse

theorem valueRev_digitsRev {base room n : Nat} (hb : 2 ≤ base) (hn : n < Nat.pow 2 room) :
    valueRev base (digitsRev base room n) = n := by
  induction room generalizing n with
  | zero =>
    have hn : n < 1 := hn
    simp [digitsRev, valueRev]
    omega
  | succ k ih =>
    unfold digitsRev
    split
    · simp [valueRev]
    · have hlt : n / base < Nat.pow 2 k := by
        have h : n / base ≤ n / 2 := Nat.div_le_div_left hb (by omega)
        have hn : n < Nat.pow 2 k * 2 := hn
        omega
      simp only [valueRev]
      rw [ih hlt]
      exact Nat.mod_add_div n base

def digitChar (d : Nat) : Char := if d < 10 then Char.ofNat (48 + d) else Char.ofNat (87 + d)

def numeral (base n : Nat) : List Char := (digits base n).map digitChar

/-- The decimal numeral of an integer, with a minus sign if negative. -/
def decimal (i : Int) : List Char :=
  if i < 0 then '-' :: numeral 10 i.natAbs else numeral 10 i.natAbs

/-- `text` with zeros in front, at least `width` characters long. -/
def padLeft (width : Nat) (text : List Char) : List Char :=
  List.replicate (width - text.length) '0' ++ text

/-- A natural number in at least `width` decimal digits. -/
def padded (width n : Nat) : List Char := padLeft width (numeral 10 n)

def decimalText (i : Int) : String := String.ofList (decimal i)

end WorldQuery.Number
