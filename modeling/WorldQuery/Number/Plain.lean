import WorldQuery.Number.Binary64

/-!
# Plain numerals

Numerals with the digits `0` to `9` only. `readPlainReal` reads a number with an optional point and
power of ten; `readPlainInteger` reads an integer, which may have zeros in front, single underscores
between its digits and a point with nothing but zeros after it.
-/

namespace WorldQuery.Number

open Text

def splitDigits (text : List Char) : List Nat × List Char :=
  let isDigit (c : Char) : Bool := (asciiDigit c).isSome
  ((text.takeWhile isDigit).filterMap asciiDigit, text.dropWhile isDigit)

/-- The power of ten that ends a numeral: nothing, or a mark, an optional sign and digits. -/
def readPlainPower : List Char → Option Int
  | [] => some 0
  | mark :: rest =>
    let (negative, body) := splitSign rest
    let (digits, left) := splitDigits body
    if (mark = 'e' ∨ mark = 'E') ∧ !digits.isEmpty ∧ left.isEmpty then
      some (if negative then -(ofDigits 10 digits : Int) else ofDigits 10 digits)
    else none

def readPlainDecimal (negative : Bool) (body : List Char) : Option Binary64 :=
  let (whole, rest) := splitDigits body
  let (part, left) :=
    match rest with
    | '.' :: more => splitDigits more
    | _ => ([], rest)
  if whole.isEmpty && part.isEmpty then none
  else (readPlainPower left).map fun power =>
    Binary64.ofDecimal negative (ofDigits 10 (whole ++ part)) (power - part.length)

/-- Reads a number, or one of the words for infinity and NaN. -/
def readPlainReal (text : List Char) : Option Binary64 :=
  let (negative, body) := splitSign text
  let word := String.ofList (body.map Binary64.asciiLower)
  if word = "inf" ∨ word = "infinity" then some (Binary64.infinity negative)
  else if word = "nan" then some Binary64.nan
  else readPlainDecimal negative body

def withoutOuterBlanks (text : List Char) : List Char :=
  ((text.dropWhile isNumeralBlank).reverse.dropWhile isNumeralBlank).reverse

def hasDoubleUnderscore : List Char → Bool
  | '_' :: '_' :: _ => true
  | _ :: rest => hasDoubleUnderscore rest
  | [] => false

/-- A text without its underscores, provided that each stands alone between other characters. -/
def withoutUnderscores (text : List Char) : Option (List Char) :=
  if text.head? = some '_' ∨ text.getLast? = some '_' ∨ hasDoubleUnderscore text then none
  else some (text.filter (· != '_'))

/-- Drops zeros in front of other digits, and underscores among them. `last` is the character before
the text. One zero stays before a point, and the last character stays if nothing follows. -/
def dropLeadingZeros (last : Char) : List Char → Option (List Char)
  | [] => some [last]
  | c :: rest =>
    if c = '0' then dropLeadingZeros c rest
    else if c = '_' then if last = '_' then none else dropLeadingZeros c rest
    else if (asciiDigit c).isSome then some (c :: rest)
    else if c = '.' then some (last :: c :: rest)
    else none

/-- The digits of an integer numeral from its first digit or minus sign on, free of zeros in front. -/
def significant : List Char → Option (List Char)
  | [] => none
  | c :: rest =>
    if c = '0' then dropLeadingZeros c rest
    else if c = '-' ∨ (asciiDigit c).isSome then some (c :: rest)
    else none

/-- Drops a point with nothing but zeros after it. -/
def dropZeroPart (text : List Char) : List Char :=
  match text.dropWhile (· != '.') with
  | '.' :: part => if part.all (· == '0') then text.takeWhile (· != '.') else text
  | _ => text

/-- Drops a plus sign, which no minus sign may follow. -/
def dropPlus : List Char → Option (List Char)
  | '+' :: '-' :: _ => none
  | '+' :: rest => some rest
  | text => some text

/-- Reads an integer written with digits alone, after a minus sign perhaps. -/
def readBareInteger (text : List Char) : Option (Bool × List Nat) :=
  let (negative, body) :=
    match text with
    | '-' :: rest => (true, rest)
    | _ => (false, text)
  match splitDigits body with
  | ([], _) => none
  | (0 :: _ :: _, _) => none
  | (digits, []) => some (negative, digits)
  | _ => none

inductive PlainFault where
  | malformed
  | tooLong
  deriving DecidableEq, Repr

def readPlainInteger (text : List Char) : Except PlainFault Int :=
  let bare := do
    let body ← significant (← dropPlus (withoutOuterBlanks text))
    readBareInteger (← withoutUnderscores (dropZeroPart body))
  match bare with
  | none => .error .malformed
  | some (negative, digits) =>
    if digitLimit < digits.length then .error .tooLong
    else .ok (if negative then -(ofDigits 10 digits : Int) else ofDigits 10 digits)

/-- Reads a number between blanks; one without blanks may have single underscores. -/
def readSpacedReal (text : List Char) : Option Binary64 :=
  match readPlainReal (withoutOuterBlanks text) with
  | some x => some x
  | none => (withoutUnderscores text).bind readPlainReal

end WorldQuery.Number
