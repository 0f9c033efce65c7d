import WorldQuery.Text.Surrogate
import WorldQuery.Text.Utf8

/-!
# Encodings of JSON

JSON text begins with two ASCII characters, if it is longer than one, so its first bytes tell the
width and the order of its units. `Encoding.decode` gives the characters of bytes, unless the bytes
end within a unit or name no code point.
-/

namespace WorldQuery.Http

open Text

inductive Encoding where
  | utf8
  | utf16 (bigEndian : Bool)
  | utf32 (bigEndian : Bool)
  deriving DecidableEq, Repr

namespace Encoding

/-- The encoding of bytes, by the zeros among the first of them. -/
def ofBytes : List UInt8 → Encoding
  | a :: b :: c :: d :: _ =>
    if a = 0 then if b = 0 then utf32 true else utf16 true
    else if b = 0 then if c = 0 ∧ d = 0 then utf32 false else utf16 false
    else utf8
  | [a, b] => if a = 0 then utf16 true else if b = 0 then utf16 false else utf8
  | _ => utf8

/-- The number of some bytes, the least significant first. -/
def littleNumber : List UInt8 → Nat
  | [] => 0
  | b :: rest => b.toNat + 256 * littleNumber rest

/-- The number of some bytes, the most significant first if they are big-endian. -/
def unit (bigEndian : Bool) (bytes : List UInt8) : Nat :=
  littleNumber (if bigEndian then bytes.reverse else bytes)

def units16 (bigEndian : Bool) : List UInt8 → Option (List Nat)
  | [] => some []
  | a :: b :: rest => (units16 bigEndian rest).map (unit bigEndian [a, b] :: ·)
  | _ => none

def units32 (bigEndian : Bool) : List UInt8 → Option (List Nat)
  | [] => some []
  | a :: b :: c :: d :: rest => (units32 bigEndian rest).map (unit bigEndian [a, b, c, d] :: ·)
  | _ => none

/-- The characters of 16-bit units, surrogates in pairs. -/
def joinUnits : List Nat → List Char
  | [] => []
  | [n] => [charOfCode n]
  | high :: low :: rest =>
    if isHighSurrogate high && isLowSurrogate low then joinSurrogates high low :: joinUnits rest
    else charOfCode high :: joinUnits (low :: rest)

/-- The characters that bytes encode. A byte order mark in front of bytes without zeros is no part
of them. -/
def decode (encoding : Encoding) (bytes : List UInt8) : Option (List Char) :=
  match encoding with
  | utf8 =>
    match textOfBytes bytes with
    | '\ufeff' :: rest => some rest
    | text => some text
  | utf16 bigEndian => (units16 bigEndian bytes).map joinUnits
  | utf32 bigEndian => do
    let codes ← units32 bigEndian bytes
    if codes.all (· ≤ 0x10FFFF) then some (codes.map charOfCode) else none

end Encoding

/-- The characters of JSON text, given as the characters that its bytes have in UTF-8. -/
def jsonChars (text : String) : Option (List Char) :=
  let bytes := text.toList.flatMap bytesOfChar
  (Encoding.ofBytes bytes).decode bytes

end WorldQuery.Http
