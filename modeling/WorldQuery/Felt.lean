import WorldQuery.Value

/-!
# Field elements

A field element is a natural number of any size, written `0x` and its lower-case hexadecimal digits.
It is read from a non-negative integer, from a hexadecimal text with that mark, or from a decimal
text.
-/

namespace WorldQuery

open Number Text Time

/-- Why a datum does not fit a scalar kind. -/
inductive ScalarFault where
  | booleanElement (b : Bool)
  /-- Neither an integer nor a text. -/
  | notElement (kind : String)
  | malformedElement (value : Datum)
  | negativeElement (value : Datum)
  | numeral (fault : NumeralFault)
  /-- No hexadecimal numeral, as surrogates stand on their own in it. -/
  | strayNumeral (codes : List Nat)
  | time (fault : TimeFault)
  | notMoment (kind : String)
  | notInteger (kind : String)
  | notBoolean (value : Datum)
  /-- The datum has no text, as an integer in it has too many digits. -/
  | unwritable
  deriving Repr

/-- What is at fault: the kind of the datum, its content, or a calendar that ends too early. -/
inductive FaultNature where
  | kind
  | content
  | overflow
  deriving DecidableEq, Repr

namespace ScalarFault

def message : ScalarFault → String
  | booleanElement b => "Cannot interpret boolean as field element: " ++ Datum.boolText b
  | notElement kind => "Cannot interpret " ++ kind ++ " as field element"
  | malformedElement value => "Invalid field element: " ++ value.shown
  | negativeElement value => "Field element cannot be negative: " ++ value.shown
  | numeral fault => fault.message
  | strayNumeral codes =>
    "invalid literal for int() with base 16: " ++ String.ofList ((quotedCodes codes).take 200)
  | time fault => fault.message
  | notMoment kind => "Cannot interpret " ++ kind ++ " as datetime"
  | notInteger kind => "Cannot interpret " ++ kind ++ " as Int"
  | notBoolean value => "Cannot interpret " ++ value.shown ++ " as Boolean"
  | unwritable =>
    "Exceeds the limit (" ++ decimalText digitLimit ++
      " digits) for integer string conversion; use sys.set_int_max_str_digits() to increase the limit"

def nature : ScalarFault → FaultNature
  | booleanElement _ => .kind
  | notElement _ => .kind
  | malformedElement _ => .content
  | negativeElement _ => .content
  | numeral _ => .content
  | strayNumeral _ => .content
  | time .outsideCalendar => .overflow
  | time _ => .content
  | notMoment _ => .kind
  | notInteger _ => .kind
  | notBoolean _ => .kind
  | unwritable => .content

/-- A fault whose wording shows a datum. Where the datum has no text, that is the fault. -/
def showing (d : Datum) (fault : ScalarFault) : ScalarFault :=
  if d.isWritable then fault else unwritable

end ScalarFault

namespace Felt

/-- The integer that a text denotes: hexadecimal after `0x`, otherwise decimal digits only. -/
def readText (s : String) : Except ScalarFault Int :=
  let body := trim s.toList
  let decimal : Except ScalarFault Int :=
    if allDigits body then (readInteger 10 body).mapError .numeral
    else .error (.malformedElement (.text s))
  match body with
  | '0' :: x :: rest =>
    if x = 'x' ∨ x = 'X' then (readInteger 16 rest).mapError .numeral else decimal
  | _ => decimal

/-- The fault of code points among which surrogates stand on their own: no numeral has one. -/
def strayFault (codes : List Nat) : ScalarFault :=
  let isBlankCode := inRanges blankRanges
  match ((codes.dropWhile isBlankCode).reverse.dropWhile isBlankCode).reverse with
  | 0x30 :: x :: rest =>
    if x = 0x78 ∨ x = 0x58 then .strayNumeral rest else .malformedElement (.illFormed codes)
  | _ => .malformedElement (.illFormed codes)

/-- The field element that a datum denotes. -/
def ofDatum (d : Datum) : Except ScalarFault Nat := do
  let i ←
    match d with
    | .bool b => .error (.booleanElement b)
    | .int i => .ok i
    | .text s => readText s
    | .illFormed codes => .error (strayFault codes)
    | _ => .error (.notElement d.kindName)
  if i < 0 then .error (.showing d (.negativeElement d)) else .ok i.toNat

def render (n : Nat) : String := String.ofList ('0' :: 'x' :: numeral 16 n)

def canonical (d : Datum) : Except ScalarFault String := (ofDatum d).map render

end Felt

end WorldQuery
