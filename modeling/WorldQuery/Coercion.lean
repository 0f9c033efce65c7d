import WorldQuery.Datum
import WorldQuery.Issue
import WorldQuery.Number.Plain

/-!
# Lenient readings

A field of a known kind is read from a datum that need not be of that kind: texts are parsed, bytes
count if they are the encoding of a text, and numbers are converted where nothing is lost.
-/

namespace WorldQuery.Coercion

open Number

/-- The text in a datum, or nothing if it holds none. Bytes that encode no text have the given
issue. -/
def text? (onBytes : IssueKind) : Datum → Except IssueKind (Option String)
  | .text s => .ok (some s)
  | .blob bytes =>
    match String.fromUTF8? (ByteArray.mk bytes.toArray) with
    | some s => .ok (some s)
    | none => .error onBytes
  | _ => .ok none

def text (d : Datum) : Except IssueKind String := do
  match ← text? .notUnicode d with
  | some s => .ok s
  | none => .error .notText

def optionalText : Datum → Except IssueKind (Option String)
  | .null => .ok none
  | d => (text d).map some

def falseWords : List String := ["0", "off", "f", "false", "n", "no"]

def trueWords : List String := ["1", "on", "t", "true", "y", "yes"]

def boolOfWord (word : String) : Except IssueKind Bool :=
  let lowered := String.ofList (word.toList.map Binary64.asciiLower)
  if falseWords.contains lowered then .ok false
  else if trueWords.contains lowered then .ok true
  else .error .unreadableBool

def boolOfInt (i : Int) : Except IssueKind Bool :=
  if i = 0 then .ok false else if i = 1 then .ok true else .error .unreadableBool

/-- The least integer that is too large for a signed word of 64 bits. -/
def wordBound : Int := 9223372036854775808

/-- The integer that a number is, if it lies within a word. -/
def intOfReal (x : Binary64) : Except IssueKind Int :=
  if !x.isFinite then .error .notFinite
  else if x.numerator % x.denominator ≠ 0 then .error .fractional
  else if -wordBound < x.floor ∧ x.floor < wordBound then .ok x.floor
  else .error .oversizedInt

/-- The number next to an integer, unless the integer is too large for all of them. -/
def realOfInt (i : Int) : Option Binary64 :=
  let x := Binary64.ofDecimal (decide (i < 0)) i.natAbs 0
  if x.isFinite then some x else none

def bool (d : Datum) : Except IssueKind Bool := do
  match ← text? .unreadableBool d, d with
  | some word, _ => boolOfWord word
  | none, .bool b => .ok b
  | none, .int i => if -wordBound ≤ i ∧ i < wordBound then boolOfInt i else .error .notBool
  | none, .real x =>
    match intOfReal x with
    | .ok i => boolOfInt i
    | .error _ => .error .notBool
  | none, _ => .error .notBool

def int (d : Datum) : Except IssueKind Int := do
  match ← text? .unreadableInt d, d with
  | some numeral, _ =>
    match readPlainInteger numeral.toList with
    | .ok i => .ok i
    | .error .malformed => .error .unreadableInt
    | .error .tooLong => .error .oversizedInt
  | none, .bool b => .ok (if b then 1 else 0)
  | none, .int i => .ok i
  | none, .real x => intOfReal x
  | none, _ => .error .notInt

def real (d : Datum) : Except IssueKind Binary64 := do
  match ← text? .unreadableReal d, d with
  | some numeral, _ =>
    match readSpacedReal numeral.toList with
    | some x => .ok x
    | none => .error .unreadableReal
  | none, .bool b => .ok (Binary64.ofDecimal false (if b then 1 else 0) 0)
  | none, .int i =>
    match realOfInt i with
    | some x => .ok x
    | none => .error .notReal
  | none, .real x => .ok x
  | none, _ => .error .notReal

end WorldQuery.Coercion
