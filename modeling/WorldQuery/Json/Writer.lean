import WorldQuery.Datum

/-!
# Writing JSON

A datum is written on one line, with a blank after commas and colons and with everything outside
printing ASCII escaped by its 16-bit units. Bytes and moments have no form of their own in JSON and
are written as the text that shows them.
-/

namespace WorldQuery.Json

open Number Text

def unitEscape (n : Nat) : List Char := '\\' :: 'u' :: padLeft 4 (numeral 16 n)

def writtenChar (c : Char) : List Char :=
  if c = '"' ∨ c = '\\' then ['\\', c]
  else if c = '\n' then ['\\', 'n']
  else if c = '\r' then ['\\', 'r']
  else if c = '\t' then ['\\', 't']
  else if c = '\x08' then ['\\', 'b']
  else if c = '\x0c' then ['\\', 'f']
  else if 0x20 ≤ c.toNat ∧ c.toNat < 0x7F then [c]
  else if c.toNat < 0x10000 then unitEscape c.toNat
  else
    let n := c.toNat - 0x10000
    unitEscape (0xD800 + n / 0x400) ++ unitEscape (0xDC00 + n % 0x400)

def writtenText (s : String) : String :=
  "\"" ++ String.ofList (s.toList.flatMap writtenChar) ++ "\""

def writtenCode (n : Nat) : List Char :=
  match scalarChar n with
  | some c => writtenChar c
  | none => unitEscape n

def writtenCodes (codes : List Nat) : String :=
  "\"" ++ String.ofList (codes.flatMap writtenCode) ++ "\""

/-- A number; NaN and the infinities are written by their words. -/
def writtenReal (x : Binary64) : String :=
  if x.isNaN then "NaN"
  else if x.isInfinite then (if x.signed then "-Infinity" else "Infinity")
  else String.ofList x.render

mutual

def written : Datum → String
  | .null => "null"
  | .bool b => if b then "true" else "false"
  | .int i => decimalText i
  | .real x => writtenReal x
  | .text s => writtenText s
  | .illFormed codes => writtenCodes codes
  | .blob bytes => writtenText (Datum.shown (.blob bytes))
  | .moment m => writtenText m.plainText
  | .list ds => "[" ++ String.intercalate ", " (writtenItems ds) ++ "]"
  | .object ms => "\x7b" ++ String.intercalate ", " (writtenMembers ms) ++ "\x7d"

def writtenItems : List Datum → List String
  | [] => []
  | d :: rest => written d :: writtenItems rest

def writtenMembers : List (String × Datum) → List String
  | [] => []
  | (key, d) :: rest => (writtenText key ++ ": " ++ written d) :: writtenMembers rest

end

end WorldQuery.Json
