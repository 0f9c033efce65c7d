import WorldQuery.Number.Numeral

/-!
# Binary floating point numbers and their text

A number is kept as its 64 bits. Its text has the fewest digits that read back to the same number,
the nearest such decimal winning; it is positional for decimal exponents from -4 to 15 and
scientific elsewhere.
-/

namespace WorldQuery.Number

open Text

structure Binary64 where
  bits : UInt64
  deriving DecidableEq, Repr

namespace Binary64

def exponentField (x : Binary64) : Nat := ((x.bits >>> 52) &&& 0x7FF).toNat

def fractionField (x : Binary64) : Nat := (x.bits &&& 0xFFFFFFFFFFFFF).toNat

/-- The sign bit; a negative zero has it too. -/
def signed (x : Binary64) : Bool := x.bits >>> 63 == 1

def isNaN (x : Binary64) : Bool := x.exponentField == 0x7FF && x.fractionField != 0

def isInfinite (x : Binary64) : Bool := x.exponentField == 0x7FF && x.fractionField == 0

def isFinite (x : Binary64) : Bool := x.exponentField != 0x7FF

/-- The magnitude of a finite number is `mantissa * 2 ^ exponent`. -/
def mantissa (x : Binary64) : Nat :=
  if x.exponentField = 0 then x.fractionField else Nat.pow 2 52 + x.fractionField

def exponent (x : Binary64) : Int :=
  if x.exponentField = 0 then -1074 else (x.exponentField : Int) - 1075

/-- Whether the gap to the neighbour below is half the gap to the neighbour above. -/
def narrowBelow (x : Binary64) : Bool := x.fractionField == 0 && 1 < x.exponentField

def isZero (x : Binary64) : Bool := x.isFinite && x.mantissa == 0

/-- Greater than zero: neither zero, nor negative, nor a NaN. -/
def isPositive (x : Binary64) : Bool := !x.signed && !x.isNaN && !x.isZero

def numerator (x : Binary64) : Nat := x.mantissa * Nat.pow 2 x.exponent.toNat

def denominator (x : Binary64) : Nat := Nat.pow 2 (-x.exponent).toNat

/-- The greatest integer that a finite number is not below. -/
def floor (x : Binary64) : Int :=
  if x.signed then Int.fdiv (-(x.numerator : Int)) x.denominator else x.numerator / x.denominator

def roundMagnitude (x : Binary64) : Nat := (2 * x.numerator + x.denominator) / (2 * x.denominator)

def toFloat (x : Binary64) : Float := Float.ofBits x.bits

def ofFloat (x : Float) : Binary64 := ⟨x.toBits⟩

/-- A decimal number `coefficient * 10 ^ power`. -/
structure Decimal where
  coefficient : Nat
  power : Int
  deriving DecidableEq, Repr

/-- Compares `a * 10 ^ i` with `m * 2 ^ j`, exactly. -/
def compareScaled (a : Nat) (i : Int) (m : Nat) (j : Int) : Ordering :=
  compare (a * Nat.pow 10 i.toNat * Nat.pow 2 (-j).toNat)
    (m * Nat.pow 2 j.toNat * Nat.pow 10 (-i).toNat)

/-- Whether a decimal lies among the reals that round to `x`. The ends of that interval belong to it
when the mantissa is even. -/
def readsBack (x : Binary64) (d : Decimal) : Bool :=
  let low := if x.narrowBelow then 4 * x.mantissa - 1 else 4 * x.mantissa - 2
  let high := 4 * x.mantissa + 2
  let closed := x.mantissa % 2 == 0
  let atLow := compareScaled d.coefficient d.power low (x.exponent - 2)
  let atHigh := compareScaled d.coefficient d.power high (x.exponent - 2)
  (atLow == .gt || (closed && atLow == .eq)) && (atHigh == .lt || (closed && atHigh == .eq))

/-- Moves an estimate up to the least `k` with `mantissa * 2 ^ exponent < 10 ^ k`. -/
def raiseScale (x : Binary64) : Nat → Int → Int
  | 0, k => k
  | room + 1, k =>
    if compareScaled 1 k x.mantissa x.exponent == .gt then k else raiseScale x room (k + 1)

/-- The number of digits before the decimal point: the least `k` with the magnitude below `10 ^ k`.
The estimate from the binary logarithm is at most two too small. -/
def scale (x : Binary64) : Int :=
  let binary : Int := x.mantissa.log2 + x.exponent
  x.raiseScale 4 (Int.fdiv (binary * 30103) 100000)

/-- The neighbour of `x` below on the grid of multiples of `10 ^ power`, in units of the grid. -/
def gridBelow (x : Binary64) (power : Int) : Nat :=
  (x.numerator * Nat.pow 10 (-power).toNat) / (Nat.pow 10 power.toNat * x.denominator)

/-- The decimal on one grid that reads back to `x`: of two, the nearer, and the even one of two
equally near. -/
def onGrid (x : Binary64) (power : Int) : Option Decimal :=
  let below := x.gridBelow power
  let lower : Decimal := ⟨below, power⟩
  let upper : Decimal := ⟨below + 1, power⟩
  match x.readsBack lower, x.readsBack upper with
  | false, false => none
  | true, false => some lower
  | false, true => some upper
  | true, true =>
    match compareScaled (2 * below + 1) power (2 * x.mantissa) x.exponent with
    | .gt => some lower
    | .lt => some upper
    | .eq => some (if below % 2 = 0 then lower else upper)

/-- The decimal of fewest digits that reads back to a finite number. Seventeen digits suffice; the
exact value stands in should they not. -/
def shortest (x : Binary64) : Decimal :=
  if x.mantissa = 0 then ⟨0, 0⟩
  else
    match (List.range 17).findSome? fun (n : Nat) => x.onGrid (x.scale - (n + 1 : Nat)) with
    | some d => d
    | none => ⟨x.numerator * Nat.pow 5 (-x.exponent).toNat, min x.exponent 0⟩

/-- Drops zeros at the end, which a decimal of few digits on a fine grid may have. -/
def dropZeros (digits : List Char) : List Char := (digits.reverse.dropWhile (· = '0')).reverse

/-- Lays out digits whose decimal point stands after the first `point` of them. -/
def layOut (digits : List Char) (point : Int) : List Char :=
  let count : Int := digits.length
  if point ≤ -4 ∨ 16 < point then
    let lead := digits.take 1
    let tail := digits.drop 1
    let power := point - 1
    lead ++ (if tail.isEmpty then [] else '.' :: tail) ++
      ('e' :: (if power < 0 then '-' else '+') :: padded 2 power.natAbs)
  else if point ≤ 0 then '0' :: '.' :: (List.replicate (-point).toNat '0' ++ digits)
  else if count ≤ point then digits ++ List.replicate (point - count).toNat '0' ++ ['.', '0']
  else digits.take point.toNat ++ '.' :: digits.drop point.toNat

def magnitudeText (x : Binary64) : List Char :=
  if x.mantissa = 0 then ['0', '.', '0']
  else
    let d := x.shortest
    let all := numeral 10 d.coefficient
    layOut (dropZeros all) (all.length + d.power)

def render (x : Binary64) : List Char :=
  if x.isNaN then ['n', 'a', 'n']
  else
    let body := if x.isInfinite then ['i', 'n', 'f'] else x.magnitudeText
    if x.signed then '-' :: body else body

/-- The number nearest to `coefficient * 10 ^ power`. Decimals out of range are settled by the
position of their first digit. -/
def ofDecimal (negative : Bool) (coefficient : Nat) (power : Int) : Binary64 :=
  let size : Int := (numeral 10 coefficient).length
  let magnitude : UInt64 :=
    if coefficient = 0 ∨ size + power < -400 then 0
    else if 400 < size + power then 0x7FF0000000000000
    else (Float.ofScientific coefficient (power < 0) power.natAbs).toBits
  ⟨if negative then magnitude ||| 0x8000000000000000 else magnitude⟩

def infinity (negative : Bool) : Binary64 :=
  ⟨if negative then 0xFFF0000000000000 else 0x7FF0000000000000⟩

def nan : Binary64 := ⟨0x7FF8000000000000⟩

/-- ASCII letters in lower case, the rest unchanged. -/
def asciiLower (c : Char) : Char := if 'A' ≤ c ∧ c ≤ 'Z' then Char.ofNat (c.toNat + 32) else c

/-- The exponent part of a numeral: none, or a mark, an optional sign and digits. -/
def readPower : List Char → Option (Int × List Char)
  | c :: rest =>
    if c = 'e' ∨ c = 'E' then
      let (negative, body) := splitSign rest
      (digitRun 10 body).map fun (ds, left) =>
        (if negative then -(ofDigits 10 ds : Int) else ofDigits 10 ds, left)
    else some (0, c :: rest)
  | [] => some (0, [])

def optionalRun (text : List Char) : Option (List Nat × List Char) :=
  match text with
  | [] => some ([], [])
  | c :: _ => if (digitIn 10 c).isSome then scanDigits 10 text else some ([], text)

/-- Digits with an optional point; one digit at least. -/
def readCoefficient (text : List Char) : Option (List Nat × List Nat × List Char) := do
  let (whole, rest) ← optionalRun text
  match rest with
  | '.' :: more =>
    let (part, left) ← optionalRun more
    if whole.isEmpty && part.isEmpty then none else some (whole, part, left)
  | _ => if whole.isEmpty then none else some (whole, [], rest)

/-- Reads a floating point numeral: decimal, with optional point and power, or one of the words for
infinity and NaN. Blanks around it are allowed. -/
def read (text : List Char) : Option Binary64 :=
  let body := text.dropWhile isNumeralBlank
  let body := (body.reverse.dropWhile isNumeralBlank).reverse
  let (negative, unsigned) := splitSign body
  let word := String.ofList (unsigned.map asciiLower)
  if word = "inf" ∨ word = "infinity" then some (infinity negative)
  else if word = "nan" then some nan
  else do
    let (whole, part, rest) ← readCoefficient unsigned
    let (power, left) ← readPower rest
    if left.isEmpty then
      some (ofDecimal negative (ofDigits 10 (whole ++ part)) (power - part.length))
    else none

end Binary64

end WorldQuery.Number
