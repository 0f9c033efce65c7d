/-!
# Surrogates

Code points from U+D800 to U+DFFF are surrogates, which are no characters. Two of them, a high one
and a low one, stand for a character beyond U+FFFF.
-/

namespace WorldQuery.Text

/-- The first half of a pair. -/
def isHighSurrogate (n : Nat) : Bool := 0xD800 ≤ n && n ≤ 0xDBFF

/-- The second half of a pair. -/
def isLowSurrogate (n : Nat) : Bool := 0xDC00 ≤ n && n ≤ 0xDFFF

def isSurrogate (n : Nat) : Bool := isHighSurrogate n || isLowSurrogate n

def joinSurrogates (high low : Nat) : Char :=
  Char.ofNat (0x10000 + (high - 0xD800) * 0x400 + (low - 0xDC00))

/-- The character of a code point, unless that is a surrogate or too large. -/
def scalarChar (n : Nat) : Option Char :=
  if isSurrogate n || 0x10FFFF < n then none else some (Char.ofNat n)

/-- The character of a code point; what is none is replaced. -/
def charOfCode (n : Nat) : Char := (scalarChar n).getD '\ufffd'

end WorldQuery.Text
