import WorldQuery.Number.Digits
import WorldQuery.Text.Printable
import WorldQuery.Text.Surrogate

/-!
# Quoted text

Messages show a text between quotes. Single quotes are used unless the text holds a single quote and
no double quote. Backslashes, the quote itself and characters that do not print are escaped.
-/

namespace WorldQuery.Text

open Number

/-- The escape for a character that does not print: two, four or eight hexadecimal digits. -/
def codeEscape (n : Nat) : List Char :=
  if n < 0x100 then '\\' :: 'x' :: padLeft 2 (numeral 16 n)
  else if n < 0x10000 then '\\' :: 'u' :: padLeft 4 (numeral 16 n)
  else '\\' :: 'U' :: padLeft 8 (numeral 16 n)

/-- How one character appears between quotes of the given kind. -/
def quotedChar (quote c : Char) : List Char :=
  if c = '\\' ∨ c = quote then ['\\', c]
  else if c = '\n' then ['\\', 'n']
  else if c = '\r' then ['\\', 'r']
  else if c = '\t' then ['\\', 't']
  else if isPrintable c then [c]
  else codeEscape c.toNat

def quoteFor (text : List Char) : Char :=
  if text.contains '\'' && !text.contains '"' then '"' else '\''

/-- A text as messages show it. -/
def quoted (text : List Char) : List Char :=
  let quote := quoteFor text
  quote :: (text.flatMap (quotedChar quote) ++ [quote])

/-- Code points as messages show them: surrogates are escaped. -/
def quotedCodes (codes : List Nat) : List Char :=
  let quote := quoteFor (codes.filterMap scalarChar)
  let shown (n : Nat) : List Char :=
    match scalarChar n with
    | some c => quotedChar quote c
    | none => codeEscape n
  quote :: (codes.flatMap shown ++ [quote])

/-- How one byte appears between quotes: only printing ASCII stands for itself. -/
def quotedByte (quote : Char) (b : UInt8) : List Char :=
  let c := Char.ofNat b.toNat
  if c = '\\' ∨ c = quote then ['\\', c]
  else if c = '\n' then ['\\', 'n']
  else if c = '\r' then ['\\', 'r']
  else if c = '\t' then ['\\', 't']
  else if 0x20 ≤ b.toNat ∧ b.toNat < 0x7F then [c]
  else codeEscape b.toNat

/-- A byte string as messages show it: marked by a `b` in front. -/
def quotedBytes (bytes : List UInt8) : List Char :=
  let quote := quoteFor (bytes.map fun b => Char.ofNat b.toNat)
  'b' :: quote :: (bytes.flatMap (quotedByte quote) ++ [quote])

def quote (text : String) : String := String.ofList (quoted text.toList)

end WorldQuery.Text
