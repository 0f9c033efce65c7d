import WorldQuery.Number.Digits
import WorldQuery.Text.Digit
import WorldQuery.Text.Utf8

/-!
# Percent encoding

In an address a byte can be written as a percent sign and two hexadecimal digits. A text is encoded
byte by byte; letters, digits and a few marks stand for themselves.
-/

namespace WorldQuery.Text

open Number

/-- Characters that never need an encoding. -/
def isUnreserved (c : Char) : Bool :=
  ('A' ≤ c && c ≤ 'Z') || ('a' ≤ c && c ≤ 'z') || ('0' ≤ c && c ≤ '9') ||
    c == '_' || c == '.' || c == '-' || c == '~'

def encodedByte (b : UInt8) : List Char :=
  '%' :: (padLeft 2 (numeral 16 b.toNat)).map Char.toUpper

/-- The encoding of a text that lets some further characters stand. -/
def percentEncoded (safe : Char → Bool) (text : List Char) : List Char :=
  text.flatMap fun c =>
    if isUnreserved c || safe c then [c] else (bytesOfChar c).flatMap encodedByte

/-- The encoding of a text in a query, where a blank is a plus sign. -/
def queryEncoded (text : List Char) : List Char :=
  (percentEncoded (· == ' ') text).map fun c => if c = ' ' then '+' else c

/-- The byte written by two hexadecimal digits at the front of a text. -/
def writtenByte : List Char → Option UInt8
  | a :: b :: _ =>
    match hexValue a, hexValue b with
    | some x, some y => some (UInt8.ofNat (x * 16 + y))
    | _, _ => none
  | _ => none

/-- The text that an encoding stands for, after bytes that wait to be read and with some characters
used up. A percent sign without two digits stands for itself; a character outside ASCII ends a run
of bytes. -/
def decodeFrom (waiting : List UInt8) : Nat → List Char → List Char
  | _, [] => textOfBytes waiting
  | used + 1, _ :: rest => decodeFrom waiting used rest
  | 0, c :: rest =>
    if c = '%' then
      match writtenByte rest with
      | some b => decodeFrom (waiting ++ [b]) 2 rest
      | none => decodeFrom (waiting ++ [37]) 0 rest
    else if c.toNat < 0x80 then decodeFrom (waiting ++ [UInt8.ofNat c.toNat]) 0 rest
    else textOfBytes waiting ++ c :: decodeFrom [] 0 rest

def percentDecoded (text : List Char) : List Char := decodeFrom [] 0 text

def queryDecoded (text : List Char) : List Char :=
  percentDecoded (text.map fun c => if c = '+' then ' ' else c)

end WorldQuery.Text
