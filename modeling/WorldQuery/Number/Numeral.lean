import WorldQuery.Number.Digits
import WorldQuery.Text.Blank
import WorldQuery.Text.Digit
import WorldQuery.Text.Quoted

/-!
# Reading integers

A numeral may stand between blanks, carry a sign and separate its digits by single underscores;
decimal digits of any script count. In base sixteen a mark `0x` may precede the digits. A decimal
numeral of more than 4300 digits is refused before its value is computed.
-/

namespace WorldQuery.Number

open Text

inductive NumeralFault where
  /-- The text does not follow the grammar of numerals in the base. -/
  | malformed (base : Nat) (text : String)
  /-- The decimal numeral has too many digits. -/
  | tooLong (count : Nat)
  deriving DecidableEq, Repr

/-- The most digits a decimal numeral may have. -/
def digitLimit : Nat := 4300

/-- The wording of a fault; a quoted text is cut after two hundred characters. -/
def NumeralFault.message : NumeralFault → String
  | .malformed base text =>
    "invalid literal for int() with base " ++ decimalText base ++ ": " ++
      String.ofList ((quoted text.toList).take 200)
  | .tooLong count =>
    "Exceeds the limit (" ++ decimalText digitLimit ++
      " digits) for integer string conversion: value has " ++ decimalText count ++
      " digits; use sys.set_int_max_str_digits() to increase the limit"

/-- Blanks around a numeral: the information separators do not count. -/
def isNumeralBlank (c : Char) : Bool := isBlank c && !(0x1C ≤ c.toNat && c.toNat ≤ 0x1F)

def digitIn (base : Nat) (c : Char) : Option Nat :=
  match decimalValue? c with
  | some d => if d < base then some d else none
  | none =>
    if base ≤ 10 then none
    else if 'a' ≤ c ∧ c ≤ 'f' then some (c.toNat - 87)
    else if 'A' ≤ c ∧ c ≤ 'F' then some (c.toNat - 55)
    else none

/-- The digits at the front of a text and what follows them. An underscore belongs to the numeral
and has to stand before a digit. -/
def scanDigits (base : Nat) : List Char → Option (List Nat × List Char)
  | [] => some ([], [])
  | c :: rest =>
    if c = '_' then
      match rest with
      | [] => none
      | d :: _ => if (digitIn base d).isSome then scanDigits base rest else none
    else
      match digitIn base c with
      | none => some ([], c :: rest)
      | some d => (scanDigits base rest).map fun (ds, left) => (d :: ds, left)

/-- As `scanDigits`, for a text that has to start with a digit. -/
def digitRun (base : Nat) : List Char → Option (List Nat × List Char)
  | [] => none
  | c :: rest => if (digitIn base c).isSome then scanDigits base (c :: rest) else none

/-- A leading sign: whether it is a minus, and what follows. -/
def splitSign : List Char → Bool × List Char
  | '-' :: rest => (true, rest)
  | '+' :: rest => (false, rest)
  | text => (false, text)

/-- Drops the mark of base sixteen, and one underscore after it. The zero of the mark may be that of
any script. -/
def dropHexMark : List Char → List Char
  | zero :: x :: rest =>
    if decimalValue? zero = some 0 ∧ (x = 'x' ∨ x = 'X') then
      match rest with
      | '_' :: more => more
      | _ => rest
    else zero :: x :: rest
  | text => text

/-- The number written by digits, most significant first. -/
def ofDigits (base : Nat) (ds : List Nat) : Nat := ds.foldl (fun n d => n * base + d) 0

/-- Reads an integer in base ten or sixteen. -/
def readInteger (base : Nat) (text : List Char) : Except NumeralFault Int :=
  let (negative, body) := splitSign (text.dropWhile isNumeralBlank)
  match digitRun base (if base = 16 then dropHexMark body else body) with
  | none => .error (.malformed base (String.ofList text))
  | some (ds, rest) =>
    if base = 10 ∧ digitLimit < ds.length then .error (.tooLong ds.length)
    else if rest.all isNumeralBlank then
      .ok (if negative then -(ofDigits base ds : Int) else ofDigits base ds)
    else .error (.malformed base (String.ofList text))

end WorldQuery.Number
