import WorldQuery.Assoc
import WorldQuery.Datum
import WorldQuery.Text.Surrogate

/-!
# Reading JSON

A request body is JSON text: objects keep the order of their keys, the last value of a repeated key
counts, integers and numbers with a point or power are told apart, and the words for NaN and the
infinities are numbers. Text after the value is not allowed. Escapes may leave surrogates on their
own in a string, which then is no text. Lists and objects may be nested to a limited depth, and
integers have a limited number of digits.
-/

namespace WorldQuery.Json

open Number Text

inductive ReadFault where
  | malformed
  /-- The nesting is too deep, or an integer has too many digits. -/
  | overLimit
  deriving DecidableEq, Repr

def required {α : Type} (part : Option (α × List Char)) : Except ReadFault (α × List Char) :=
  match part with
  | some found => .ok found
  | none => .error .malformed

def levelLimit : Nat := 950

/-- Space, tab, line feed and carriage return. -/
def isSpace (c : Char) : Bool := c == ' ' || c == '\t' || c == '\n' || c == '\r'

def skipSpace (text : List Char) : List Char := text.dropWhile isSpace

/-- The number of four hexadecimal digits. -/
def hexQuad : List Char → Option (Nat × List Char)
  | a :: b :: c :: d :: rest => do
    let a ← hexValue a
    let b ← hexValue b
    let c ← hexValue c
    let d ← hexValue d
    some (((a * 16 + b) * 16 + c) * 16 + d, rest)
  | _ => none

/-- The code point after `\u`, and what follows it. Surrogates are joined where they make a pair. -/
def unicodeEscape (text : List Char) : Option (Nat × List Char) := do
  let (high, rest) ← hexQuad text
  match isHighSurrogate high, rest with
  | true, '\\' :: 'u' :: more =>
    match hexQuad more with
    | some (low, left) =>
      if isLowSurrogate low then some ((joinSurrogates high low).toNat, left) else some (high, rest)
    | none => some (high, rest)
  | _, _ => some (high, rest)

def letterEscape (c : Char) : Option Char :=
  if c = '"' ∨ c = '\\' ∨ c = '/' then some c
  else if c = 'b' then some '\x08'
  else if c = 'f' then some '\x0c'
  else if c = 'n' then some '\n'
  else if c = 'r' then some '\r'
  else if c = 't' then some '\t'
  else none

/-- The code points of a string after its opening quote, and what follows it. The first argument
bounds its length. -/
def stringRest : Nat → List Char → Option (List Nat × List Char)
  | 0, _ => none
  | room + 1, text =>
    match text with
    | [] => none
    | '"' :: rest => some ([], rest)
    | '\\' :: 'u' :: rest => do
      let (n, left) ← unicodeEscape rest
      let (ns, left) ← stringRest room left
      some (n :: ns, left)
    | '\\' :: e :: rest => do
      let c ← letterEscape e
      let (ns, left) ← stringRest room rest
      some (c.toNat :: ns, left)
    | c :: rest =>
      if c.toNat < 0x20 ∨ c = '\\' then none
      else do
        let (ns, left) ← stringRest room rest
        some (c.toNat :: ns, left)

/-- The datum of code points: a text, unless surrogates stand on their own. -/
def ofCodes (codes : List Nat) : Datum :=
  match codes.mapM scalarChar with
  | some cs => .text (String.ofList cs)
  | none => .illFormed codes

/-- The key of code points; surrogates on their own are replaced. -/
def keyOfCodes (codes : List Nat) : String :=
  String.ofList (codes.map charOfCode)

/-- A whole number without leading zeros. -/
def wholeDigits : List Char → Option (List Nat × List Char)
  | '0' :: rest => some ([0], rest)
  | text =>
    let ds := text.takeWhile fun c => (asciiDigit c).isSome
    if ds.isEmpty then none else some (ds.filterMap asciiDigit, text.drop ds.length)

/-- Digits after a mark; without any the mark is not part of the number. -/
def digitsAfter (text : List Char) : Option (List Nat × List Char) :=
  let ds := text.takeWhile fun c => (asciiDigit c).isSome
  if ds.isEmpty then none else some (ds.filterMap asciiDigit, text.drop ds.length)

def powerPart (text : List Char) : Option (Int × List Char) :=
  match text with
  | e :: rest =>
    if e = 'e' ∨ e = 'E' then
      let (negative, body) := splitSign rest
      (digitsAfter body).map fun (ds, left) =>
        (if negative then -(ofDigits 10 ds : Int) else ofDigits 10 ds, left)
    else none
  | [] => none

/-- A number: an integer unless it has a point or a power. -/
def number (negative : Bool) (text : List Char) : Except ReadFault (Datum × List Char) := do
  let (whole, rest) ← required (wholeDigits text)
  let fraction : Option (List Nat × List Char) :=
    match rest with
    | '.' :: more => digitsAfter more
    | _ => none
  let after := (fraction.map (·.2)).getD rest
  match fraction, powerPart after with
  | none, none =>
    let n : Int := ofDigits 10 whole
    if digitLimit < whole.length then throw .overLimit
    else return (.int (if negative then -n else n), rest)
  | _, power =>
    let part := (fraction.map (·.1)).getD []
    let (shift, left) := power.getD (0, after)
    let coefficient := ofDigits 10 (whole ++ part)
    return (.real (Binary64.ofDecimal negative coefficient (shift - part.length)), left)

def word (name : String) (d : Datum) (text : List Char) : Except ReadFault (Datum × List Char) :=
  if name.toList.isPrefixOf text then .ok (d, text.drop name.length) else .error .malformed

/-- A value that is neither a string nor has parts. -/
def plainValue (text : List Char) : Except ReadFault (Datum × List Char) :=
  match text with
  | 'n' :: _ => word "null" .null text
  | 't' :: _ => word "true" (.bool true) text
  | 'f' :: _ => word "false" (.bool false) text
  | 'N' :: _ => word "NaN" (.real Binary64.nan) text
  | 'I' :: _ => word "Infinity" (.real (Binary64.infinity false)) text
  | '-' :: 'I' :: _ => word "-Infinity" (.real (Binary64.infinity true)) text
  | '-' :: rest => number true rest
  | _ => number false text

mutual

/-- Reads a value. The first argument bounds the steps, one for every value and separator; the
second gives the levels that are left. -/
def value : Nat → Nat → List Char → Except ReadFault (Datum × List Char)
  | 0, _, _ => .error .malformed
  | room + 1, levels, text =>
    match text with
    | '"' :: rest => (required (stringRest (rest.length + 1) rest)).map fun (codes, left) =>
        (ofCodes codes, left)
    | '[' :: rest =>
      match levels, skipSpace rest with
      | 0, _ => .error .overLimit
      | _, ']' :: left => .ok (.list [], left)
      | levels + 1, body => (items room levels body).map fun (ds, left) => (.list ds, left)
    | '{' :: rest =>
      match levels, skipSpace rest with
      | 0, _ => .error .overLimit
      | _, '}' :: left => .ok (.object [], left)
      | levels + 1, body =>
        (members room levels body).map fun (ms, left) => (.object (Assoc.ofList ms), left)
    | _ => plainValue text

def items : Nat → Nat → List Char → Except ReadFault (List Datum × List Char)
  | 0, _, _ => .error .malformed
  | room + 1, levels, text => do
    let (d, rest) ← value room levels text
    match skipSpace rest with
    | ']' :: left => return ([d], left)
    | ',' :: more =>
      let (ds, left) ← items room levels (skipSpace more)
      return (d :: ds, left)
    | _ => throw .malformed

def members : Nat → Nat → List Char → Except ReadFault (List (String × Datum) × List Char)
  | 0, _, _ => .error .malformed
  | room + 1, levels, text =>
    match text with
    | '"' :: rest => do
      let (codes, rest) ← required (stringRest (rest.length + 1) rest)
      match skipSpace rest with
      | ':' :: rest =>
        let (d, rest) ← value room levels (skipSpace rest)
        let member := (keyOfCodes codes, d)
        match skipSpace rest with
        | '}' :: left => return ([member], left)
        | ',' :: more =>
          let (ms, left) ← members room levels (skipSpace more)
          return (member :: ms, left)
        | _ => throw .malformed
      | _ => throw .malformed
    | _ => .error .malformed

end

def readChars (text : List Char) : Except ReadFault Datum := do
  let (d, rest) ← value (2 * text.length + 2) levelLimit (skipSpace text)
  if (skipSpace rest).isEmpty then return d else throw .malformed

def read (text : String) : Except ReadFault Datum := readChars text.toList

end WorldQuery.Json
