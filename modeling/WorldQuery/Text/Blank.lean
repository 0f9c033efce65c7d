import WorldQuery.Text.Ranges

/-!
# Blank characters

The blanks are the Unicode white space characters together with the four information separators
U+001C to U+001F. Zero width spaces and the byte order mark are not blank.
-/

namespace WorldQuery.Text

def blankRanges : List (Nat × Nat) :=
  [
    (0x9, 0xD), (0x1C, 0x20), (0x85, 0x85), (0xA0, 0xA0), (0x1680, 0x1680), (0x2000, 0x200A),
    (0x2028, 0x2029), (0x202F, 0x202F), (0x205F, 0x205F), (0x3000, 0x3000)]

/-- White space, in the sense used for trimming and for splitting names into words. -/
def isBlank (c : Char) : Bool := inRanges blankRanges c.toNat

/-- Drops the blanks at both ends. -/
def trim (text : List Char) : List Char :=
  ((text.dropWhile isBlank).reverse.dropWhile isBlank).reverse

end WorldQuery.Text
