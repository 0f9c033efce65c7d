import WorldQuery.Query.Document
import WorldQuery.Scalar

/-!
# Scalars in query documents

How each scalar kind reads a literal of a document or a value that comes with the request.
`Scalar.ofLiteral` and `Scalar.ofInput` give the value that a resolver sees.
-/

namespace WorldQuery.Query

open Number

inductive LiteralFault where
  | scalar (fault : ScalarFault)
  | notHex
  | notMoment
  | mismatch
  deriving Repr

def LiteralFault.message : LiteralFault → String
  | .scalar fault => fault.message
  | .notHex => "Hex scalars must be string or integer literals"
  | .notMoment => "DateTime must be a string literal"
  | .mismatch => "Literal of another kind"

def fitsInt (i : Int) : Bool := -2147483648 ≤ i && i ≤ 2147483647

namespace Literal

/-- Reads a literal as a field element: a string or an integer. -/
def hex (l : Literal) : Except LiteralFault Datum :=
  match l with
  | .string text _ => ((Felt.canonical (.text text)).map .text).mapError .scalar
  | .int text => ((Felt.canonical (.text text)).map .text).mapError .scalar
  | _ => .error .notHex

/-- Reads a literal as a timestamp: a string. -/
def moment (l : Literal) : Except LiteralFault Datum :=
  match l with
  | .string text _ => ((Scalar.momentText (.text text)).map .text).mapError .scalar
  | _ => .error .notMoment

/-- Reads a literal as an integer of 32 bits. -/
def integer (l : Literal) : Except LiteralFault Datum :=
  match l with
  | .int text =>
    match readInteger 10 text.toList with
    | .ok i => if fitsInt i then .ok (.int i) else .error .mismatch
    | .error fault => .error (.scalar (.numeral fault))
  | _ => .error .mismatch

def asScalar (kind : Scalar) (l : Literal) : Except LiteralFault Datum :=
  match kind, l with
  | .address, l => l.hex
  | .felt, l => l.hex
  | .dateTime, l => l.moment
  | .int, l => l.integer
  | .string, .string text _ => .ok (.text text)
  | .id, .string text _ => .ok (.text text)
  | .id, .int text => .ok (.text text)
  | .boolean, .bool b => .ok (.bool b)
  | _, _ => .error .mismatch

end Literal

/-- The integer that a number of a request stands for: an integer, or a number without a
fraction. -/
def wholeNumber : Datum → Option Int
  | .int i => some i
  | .real x =>
    if x.isFinite && x.numerator % x.denominator == 0 then some x.floor else none
  | _ => none

def inputAsScalar (kind : Scalar) (d : Datum) : Option Datum :=
  match kind, d with
  | .address, d => ((Felt.canonical d).map Datum.text).toOption
  | .felt, d => ((Felt.canonical d).map Datum.text).toOption
  | .dateTime, d => ((Scalar.momentText d).map Datum.text).toOption
  | .string, .text s => some (.text s)
  | .string, .illFormed codes => some (.illFormed codes)
  | .boolean, .bool b => some (.bool b)
  | .id, .text s => some (.text s)
  | .id, .illFormed codes => some (.illFormed codes)
  | .id, d => (wholeNumber d).map fun i => .text (decimalText i)
  | .int, d => (wholeNumber d).bind fun i => if fitsInt i then some (.int i) else none
  | _, _ => none

end WorldQuery.Query
