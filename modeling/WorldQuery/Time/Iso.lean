import WorldQuery.Text.Digit
import WorldQuery.Time.Moment

/-!
# Reading ISO 8601 timestamps

A timestamp is a date, then optionally one separator of any kind and a time with an optional offset.
Dates are calendar dates or week dates, with dashes or without; times have hours, or hours and
minutes, or seconds too with a fraction of any length. `readMoment` first takes the text apart and
then checks that the fields name a moment, so a text that follows the grammar is never called
malformed.
-/

namespace WorldQuery.Time

open Text

/-- Exactly `n` digits, appended to the number read so far, and what follows. -/
def moreDigits : Nat → Nat → List Char → Option (Nat × List Char)
  | 0, value, text => some (value, text)
  | _ + 1, _, [] => none
  | n + 1, value, c :: rest =>
    match asciiDigit c with
    | none => none
    | some d => moreDigits n (value * 10 + d) rest

/-- A number of exactly `n` digits and what follows. -/
def fixedDigits (n : Nat) (text : List Char) : Option (Nat × List Char) := moreDigits n 0 text

/-- A date as written: by month and day, or as the numbered day that a week date stands for. -/
inductive DateFields where
  | calendar (year month day : Nat)
  | numbered (n : Int)
  deriving DecidableEq, Repr

/-- How many characters of the text belong to the date, which a dash or a letter `W` shows. In a
week date without dashes the number of digits decides whether a weekday is among them. -/
def dateWidth (text : List Char) : Option Nat :=
  let size := text.length
  let at? (i : Nat) (c : Char) : Bool := text[i]? == some c
  if size < 7 then none
  else if size = 7 then some 7
  else if at? 4 '-' then
    if at? 5 'W' then
      if at? 8 '-' then
        if size = 9 then none
        else if ((text[10]?).bind asciiDigit).isSome then some 8
        else some 10
      else some 8
    else some 10
  else if at? 4 'W' then
    let last := 7 + ((text.drop 7).takeWhile fun c => (asciiDigit c).isSome).length
    if last < 9 then some last
    else if last % 2 = 0 then some 7
    else some 8
  else some 8

/-- A dash if the date is written with dashes, otherwise nothing. -/
def dash (dashes : Bool) (text : List Char) : Option (List Char) :=
  if dashes then
    match text with
    | '-' :: rest => some rest
    | _ => none
  else some text

/-- The part of a week date after the `W`: the week, and the weekday unless the date ends. -/
def readWeek (year : Nat) (dashes : Bool) (text : List Char) : Option DateFields := do
  let (week, rest) ← fixedDigits 2 text
  let day ←
    if rest.isEmpty then some 1
    else do
      let (day, left) ← fixedDigits 1 (← dash dashes rest)
      if left.isEmpty then some day else none
  (weekOrdinal year week day).map .numbered

def readDate (text : List Char) : Option DateFields := do
  let (year, rest) ← fixedDigits 4 text
  let dashes := rest.head? == some '-'
  let rest ← dash dashes rest
  match rest with
  | 'W' :: more => readWeek year dashes more
  | _ =>
    let (month, rest) ← fixedDigits 2 rest
    let (day, left) ← fixedDigits 2 (← dash dashes rest)
    if left.isEmpty then some (.calendar year month day) else none

inductive AfterField where
  /-- Nothing more to read; `spare` tells that one character is left over. -/
  | finish (spare : Bool)
  | field (rest : List Char)
  | fraction (rest : List Char)
  | malformed
  deriving DecidableEq, Repr

/-- Classifies what stands after a field, in a time written with colons or without. -/
def afterField (colons : Bool) : List Char → AfterField
  | [] => .finish false
  | [c] => if c.toNat < 128 then .finish (c != '\x00') else .malformed
  | c :: rest =>
    if colons && c == ':' then .field rest
    else if c == '.' || c == ',' then .fraction rest
    else if colons then .malformed
    else .field (c :: rest)

/-- A fraction of a second, cut after microseconds; tells whether anything is left over. -/
def readFraction (text : List Char) : Option (Nat × Bool) := do
  let kept := min text.length 6
  let (value, rest) ← fixedDigits kept text
  let left := rest.dropWhile fun c => (asciiDigit c).isSome
  some (value * Nat.pow 10 (6 - kept), left.head?.any (· != '\x00'))

/-- Reads a clock reading; tells whether anything is left over. The fields are not checked. -/
def readClock (text : List Char) : Option (Clock × Bool) := do
  let (hour, rest) ← fixedDigits 2 text
  let colons := rest.head? == some ':'
  match afterField colons rest with
  | .malformed => none
  | .finish spare => some (⟨hour, 0, 0, 0⟩, spare)
  | .fraction rest =>
    let (micro, spare) ← readFraction rest
    some (⟨hour, 0, 0, micro⟩, spare)
  | .field rest =>
    let (minute, rest) ← fixedDigits 2 rest
    match afterField colons rest with
    | .malformed => none
    | .finish spare => some (⟨hour, minute, 0, 0⟩, spare)
    | .fraction rest =>
      let (micro, spare) ← readFraction rest
      some (⟨hour, minute, 0, micro⟩, spare)
    | .field rest =>
      let (second, rest) ← fixedDigits 2 rest
      match afterField colons rest with
      | .malformed => none
      | .finish spare => some (⟨hour, minute, second, 0⟩, spare)
      | .fraction rest | .field rest =>
        let (micro, spare) ← readFraction rest
        some (⟨hour, minute, second, micro⟩, spare)

def isZoneMark (c : Char) : Bool := c == '+' || c == '-' || c == 'Z'

/-- The offset of a zone in microseconds. An offset of no whole seconds counts as none at all. -/
def readZone : List Char → Option Int
  | 'Z' :: rest => if rest.head?.all (· == '\x00') then some 0 else none
  | sign :: rest =>
    match readClock rest with
    | some (c, false) =>
      if c.hour = 0 ∧ c.minute = 0 ∧ c.second = 0 then some 0
      else some (if sign = '-' then -(c.micros : Int) else c.micros)
    | _ => none
  | [] => none

/-- Reads a time with its zone. What is left over before a zone does not matter. -/
def readTime (text : List Char) : Option (Clock × Option Int) := do
  let (clock, spare) ← readClock (text.takeWhile (!isZoneMark ·))
  match text.dropWhile (!isZoneMark ·) with
  | [] => if spare then none else some (clock, none)
  | zone => some (clock, some (← readZone zone))

def readFields (text : List Char) : Option (DateFields × Clock × Option Int) := do
  let width ← dateWidth text
  let date ← readDate (text.take width)
  match text.drop width with
  | [] => some (date, Clock.midnight, none)
  | _ :: rest =>
    let (clock, zone) ← readTime rest
    some (date, clock, zone)

def DateFields.resolve : DateFields → Except TimeFault Date
  | .calendar year month day =>
    if year = 0 then .error (.yearOutOfRange year)
    else if month = 0 ∨ 12 < month then .error .monthOutOfRange
    else if day = 0 ∨ monthLength year month < day then .error .dayOutOfRange
    else .ok ⟨year, month, day⟩
  | .numbered n =>
    if n < 1 then .error .monthOutOfRange
    else if (Date.lastOrdinal : Int) < n then .error (.yearOutOfRange (lastYear + 1))
    else .ok (Date.ofOrdinal n.toNat)

/-- A clock reading with all fields in range. -/
def Clock.check (c : Clock) : Except TimeFault Clock :=
  if 23 < c.hour then .error .hourOutOfRange
  else if 59 < c.minute then .error .minuteOutOfRange
  else if 59 < c.second then .error .secondOutOfRange
  else .ok c

def readMoment (text : List Char) : Except TimeFault Moment :=
  match readFields text with
  | none => .error (.malformed (String.ofList text))
  | some (date, clock, zone) =>
    match zone with
    | some micros =>
      if micros ≤ -microsPerDay ∨ microsPerDay ≤ micros then .error (.offsetTooLarge micros)
      else do
        let date ← date.resolve
        return ⟨date, ← clock.check, some micros⟩
    | none => do
      let date ← date.resolve
      return ⟨date, ← clock.check, none⟩

end WorldQuery.Time
