/-!
# Reading bytes as text

Bytes are read as UTF-8. Where they are none, the longest beginning of a character that stands there
is read as one replacement character, and so is a byte that begins nothing.
-/

namespace WorldQuery.Text

def replacement : Char := '\uFFFD'

/-- A lead byte: the value of its bits, the number of bytes that follow it, and the range of the
first of them. All further bytes are from `0x80` to `0xBF`. -/
structure Lead where
  bits : Nat
  following : Nat
  least : Nat
  greatest : Nat

def lead? (b : Nat) : Option Lead :=
  if 0xC2 ≤ b ∧ b ≤ 0xDF then some ⟨b - 0xC0, 1, 0x80, 0xBF⟩
  else if b = 0xE0 then some ⟨0, 2, 0xA0, 0xBF⟩
  else if b = 0xED then some ⟨0xD, 2, 0x80, 0x9F⟩
  else if 0xE1 ≤ b ∧ b ≤ 0xEF then some ⟨b - 0xE0, 2, 0x80, 0xBF⟩
  else if b = 0xF0 then some ⟨0, 3, 0x90, 0xBF⟩
  else if 0xF1 ≤ b ∧ b ≤ 0xF3 then some ⟨b - 0xF0, 3, 0x80, 0xBF⟩
  else if b = 0xF4 then some ⟨4, 3, 0x80, 0x8F⟩
  else none

/-- Reads bytes, in the middle of a character if one is pending. -/
def readBytes (pending? : Option Lead) : List Nat → List Char
  | [] =>
    match pending? with
    | some _ => [replacement]
    | none => []
  | b :: rest =>
    let fresh : List Char :=
      if b < 0x80 then Char.ofNat b :: readBytes none rest
      else
        match lead? b with
        | some l => readBytes (some l) rest
        | none => replacement :: readBytes none rest
    match pending? with
    | none => fresh
    | some l =>
      if l.least ≤ b ∧ b ≤ l.greatest then
        let bits := l.bits * 0x40 + (b - 0x80)
        if l.following ≤ 1 then Char.ofNat bits :: readBytes none rest
        else readBytes (some ⟨bits, l.following - 1, 0x80, 0xBF⟩) rest
      else replacement :: fresh

def textOfBytes (bytes : List UInt8) : List Char := readBytes none (bytes.map UInt8.toNat)

def bytesOfChar (c : Char) : List UInt8 :=
  let n := c.toNat
  let tail (k : Nat) : UInt8 := UInt8.ofNat (0x80 + n / Nat.pow 0x40 k % 0x40)
  if n < 0x80 then [UInt8.ofNat n]
  else if n < 0x800 then [UInt8.ofNat (0xC0 + n / 0x40), tail 0]
  else if n < 0x10000 then [UInt8.ofNat (0xE0 + n / 0x1000), tail 1, tail 0]
  else [UInt8.ofNat (0xF0 + n / 0x40000), tail 2, tail 1, tail 0]

end WorldQuery.Text
