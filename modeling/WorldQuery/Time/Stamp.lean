import WorldQuery.Number.Plain
import WorldQuery.Time.Iso

/-!
# Row stamps

The creation stamp of a component row is read by rules of its own: a date with optional time and
offset in a narrow format, or a count of seconds since 1970, which is a count of milliseconds when
it is large. `Stamp.readText`, `Stamp.ofCount` and `Stamp.ofReal` give `none` where there is no such
moment.
-/

namespace WorldQuery.Time.Stamp

open Number Text

/-- Counts of a larger size are milliseconds. -/
def millisecondLimit : Int := 20000000000

/-- The least and greatest count of seconds that a stamp may have: the first second of the year 1 and
the last of the year 9999. -/
def leastSecond : Int := -62135596800

def greatestSecond : Int := 253402300799

/-- The number of the first of January 1970. -/
def epochOrdinal : Int := 719163

/-- The moment a number of seconds after the start of 1970. -/
def atSecond (seconds : Int) (micro : Nat) : Moment :=
  let rest := (Int.fmod seconds 86400).toNat
  { date := Date.ofOrdinal (Int.fdiv seconds 86400 + epochOrdinal).toNat
    clock := ⟨rest / 3600, rest % 3600 / 60, rest % 60, micro⟩
    offset := some 0 }

/-- The moment of a number of seconds and microseconds, of which there may be a whole second. -/
def ofSeconds (seconds : Int) (micros : Nat) : Option Moment :=
  let seconds := seconds + (micros / 1000000 : Nat)
  if leastSecond ≤ seconds ∧ seconds ≤ greatestSecond then
    some (atSecond seconds (micros % 1000000))
  else none

def ofCount (count : Int) : Option Moment :=
  if millisecondLimit < count ∨ count < -millisecondLimit then
    ofSeconds (Int.fdiv count 1000) ((Int.fmod count 1000).toNat * 1000)
  else ofSeconds count 0

/-- The moment of a count with a fraction, rounded to microseconds. -/
def ofReal (x : Binary64) : Option Moment :=
  if !x.isFinite then none
  else
    let isLarge := Float.ofInt millisecondLimit < x.toFloat.abs
    let number := if isLarge then x.toFloat / 1000 else x.toFloat
    let seconds := (Binary64.ofFloat number).floor
    if seconds < leastSecond ∨ greatestSecond < seconds then none
    else
      let left := (number - Float.ofInt seconds) * 1000000
      ofSeconds seconds (Binary64.ofFloat left).roundMagnitude

def readDay (text : List Char) : Option (Date × List Char) := do
  let (year, rest) ← fixedDigits 4 text
  let (month, rest) ← fixedDigits 2 (← dash true rest)
  let (day, rest) ← fixedDigits 2 (← dash true rest)
  let date : Date := ⟨year, month, day⟩
  if date.Valid then some (date, rest) else none

def readFraction (text : List Char) : Option (Nat × List Char) := do
  let digits := text.takeWhile fun c => (asciiDigit c).isSome
  let kept := min digits.length 6
  let (value, _) ← fixedDigits kept digits
  if 1 ≤ digits.length ∧ digits.length ≤ 9 then
    some (value * Nat.pow 10 (6 - kept), text.drop digits.length)
  else none

/-- The seconds of a stamp, with a fraction or without. -/
def readSeconds (text : List Char) : Option (Nat × Nat × List Char) := do
  let (second, rest) ← fixedDigits 2 text
  match rest with
  | c :: more =>
    if c = '.' ∨ c = ',' then
      let (micro, left) ← readFraction more
      some (second, micro, left)
    else some (second, 0, rest)
  | [] => some (second, 0, [])

def readClock (text : List Char) : Option (Clock × List Char) := do
  let (hour, rest) ← fixedDigits 2 text
  match rest with
  | ':' :: rest =>
    let (minute, rest) ← fixedDigits 2 rest
    let (second, micro, left) ←
      match rest with
      | ':' :: more => readSeconds more
      | _ => some (0, 0, rest)
    if hour ≤ 23 ∧ minute ≤ 59 ∧ second ≤ 59 then some (⟨hour, minute, second, micro⟩, left)
    else none
  | _ => none

/-- Signs before the hours of a zone west of Greenwich: the hyphen and the minus sign. -/
def isWest (c : Char) : Bool := c == '-' || c == '\u2212'

/-- The zone of a stamp, which ends the text: nothing, a `Z`, or hours and minutes below a day. -/
def readZone : List Char → Option (Option Int)
  | [] => some none
  | sign :: rest =>
    if sign = 'Z' ∨ sign = 'z' then
      if rest.isEmpty then some (some 0) else none
    else if sign = '+' ∨ isWest sign then do
      let (hour, rest) ← fixedDigits 2 rest
      let rest := match rest with
        | ':' :: more => more
        | _ => rest
      let (minute, left) ← fixedDigits 2 rest
      if left.isEmpty ∧ hour ≤ 23 ∧ minute ≤ 59 then
        let micros : Int := ((hour * 60 + minute) * 60000000 : Nat)
        some (some (if isWest sign then -micros else micros))
      else none
    else none

/-- Characters between the date and the time of a stamp. -/
def isSeparator (c : Char) : Bool := c == 'T' || c == 't' || c == ' ' || c == '_'

def readWritten (text : List Char) : Option Moment := do
  let (date, rest) ← readDay text
  match rest with
  | [] => some ⟨date, Clock.midnight, none⟩
  | c :: rest =>
    if isSeparator c then
      let (clock, rest) ← readClock rest
      let zone ← readZone rest
      some ⟨date, clock, zone⟩
    else none

/-- The greatest count a numeral may hold before its point. -/
def countLimit : Nat := 9223372036854775807

/-- A stamp written as a number: a sign and digits, or digits around a point and perhaps a power of
ten. -/
def readCounted (text : List Char) : Option Moment :=
  let (negative, body) := splitSign text
  let (whole, rest) := splitDigits body
  let value := ofDigits 10 whole
  if countLimit < value then none
  else
    match rest with
    | [] =>
      if whole.isEmpty then none else ofCount (if negative then -(value : Int) else value)
    | '.' :: _ => (readPlainDecimal negative body).bind ofReal
    | _ => none

def readText (text : List Char) : Option Moment :=
  match readWritten text with
  | some m => some m
  | none => readCounted text

end WorldQuery.Time.Stamp
