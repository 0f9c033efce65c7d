import WorldQuery.Number.Digits
import WorldQuery.Time.Calendar
import WorldQuery.Text.Quoted

/-!
# Moments

A moment is a date with a clock reading and, if it has a zone, the offset of its zone from UTC.
Without a zone it is read as UTC. `Moment.utcText` writes its instant in UTC to whole seconds,
rounding down; it fails exactly when the instant lies outside the calendar.
-/

namespace WorldQuery.Time

open Number

inductive TimeFault where
  | malformed (text : String)
  /-- The offset, in microseconds, is a day or more. -/
  | offsetTooLarge (micros : Int)
  | yearOutOfRange (year : Nat)
  | monthOutOfRange
  | dayOutOfRange
  | hourOutOfRange
  | minuteOutOfRange
  | secondOutOfRange
  /-- In UTC the instant falls before year one or after year 9999. -/
  | outsideCalendar
  deriving DecidableEq, Repr

def microsPerDay : Int := 86400000000

/-- A duration as messages show it: whole days rounded down, then seconds and microseconds. -/
def durationText (micros : Int) : String :=
  let days := Int.fdiv micros microsPerDay
  let rest := Int.fmod micros microsPerDay
  let seconds := Int.fdiv rest 1000000
  let left := Int.fmod rest 1000000
  let part (name : String) (n : Int) : List String :=
    if n = 0 then [] else [name ++ "=" ++ decimalText n]
  let parts := part "days" days ++ part "seconds" seconds ++ part "microseconds" left
  "datetime.timedelta(" ++ (if parts.isEmpty then "0" else String.intercalate ", " parts) ++ ")"

def TimeFault.message : TimeFault → String
  | .malformed text => "Invalid isoformat string: " ++ Text.quote text
  | .offsetTooLarge micros =>
    "offset must be a timedelta strictly between -timedelta(hours=24) and timedelta(hours=24), not " ++
      durationText micros ++ "."
  | .yearOutOfRange year => "year " ++ decimalText year ++ " is out of range"
  | .monthOutOfRange => "month must be in 1..12"
  | .dayOutOfRange => "day is out of range for month"
  | .hourOutOfRange => "hour must be in 0..23"
  | .minuteOutOfRange => "minute must be in 0..59"
  | .secondOutOfRange => "second must be in 0..59"
  | .outsideCalendar => "date value out of range"

structure Clock where
  hour : Nat
  minute : Nat
  second : Nat
  micro : Nat
  deriving DecidableEq, Repr

namespace Clock

def midnight : Clock := ⟨0, 0, 0, 0⟩

/-- Microseconds since midnight. -/
def micros (c : Clock) : Nat := ((c.hour * 60 + c.minute) * 60 + c.second) * 1000000 + c.micro

end Clock

/-- A date and time, with the offset of its zone in microseconds east of UTC if it has one. -/
structure Moment where
  date : Date
  clock : Clock
  offset : Option Int
  deriving DecidableEq, Repr

namespace Moment

/-- Seconds from the start of the calendar's day zero to the instant, rounded down. -/
def utcSeconds (m : Moment) : Int :=
  Int.fdiv ((m.date.ordinal : Int) * microsPerDay + m.clock.micros - m.offset.getD 0) 1000000

def clockText (hour minute second : Nat) : List Char :=
  padded 2 hour ++ ':' :: (padded 2 minute ++ ':' :: padded 2 second)

/-- The text of an instant in UTC, given by its count of seconds. Years are not padded. -/
def secondsText (seconds : Int) : Except TimeFault String :=
  let day := Int.fdiv seconds 86400
  let rest := (Int.fmod seconds 86400).toNat
  if 1 ≤ day ∧ day ≤ Date.lastOrdinal then
    let d := Date.ofOrdinal day.toNat
    .ok (String.ofList
      (numeral 10 d.year ++ '-' :: (padded 2 d.month ++ '-' :: (padded 2 d.day ++
        'T' :: (clockText (rest / 3600) (rest % 3600 / 60) (rest % 60) ++ ['Z'])))))
  else .error .outsideCalendar

/-- The instant in UTC, to whole seconds. -/
def utcText (m : Moment) : Except TimeFault String := secondsText m.utcSeconds

/-- An offset as it follows a time: hours and minutes, then seconds and microseconds if any. -/
def offsetText (micros : Int) : List Char :=
  let size := micros.natAbs
  let seconds := size / 1000000
  let left := size % 1000000
  (if micros < 0 then '-' else '+') :: (padded 2 (seconds / 3600) ++
    ':' :: (padded 2 (seconds % 3600 / 60) ++
      (if seconds % 60 = 0 ∧ left = 0 then [] else
        ':' :: (padded 2 (seconds % 60) ++ (if left = 0 then [] else '.' :: padded 6 left)))))

/-- The moment as a stored text: date, a space, the time, and the offset if it has one. -/
def plainText (m : Moment) : String :=
  String.ofList (padded 4 m.date.year ++ '-' :: (padded 2 m.date.month ++
    '-' :: (padded 2 m.date.day ++ ' ' :: (clockText m.clock.hour m.clock.minute m.clock.second ++
      ((if m.clock.micro = 0 then [] else '.' :: padded 6 m.clock.micro) ++
        (m.offset.map offsetText).getD [])))))

def zoneText (micros : Int) : String :=
  if micros = 0 then "datetime.timezone.utc"
  else "datetime.timezone(" ++ durationText micros ++ ")"

/-- The moment as messages show it: seconds and microseconds only as far as they are needed. -/
def shownText (m : Moment) : String :=
  let c := m.clock
  let time := [c.hour, c.minute] ++
    (if c.micro ≠ 0 then [c.second, c.micro] else if c.second ≠ 0 then [c.second] else [])
  let numbers := [m.date.year, m.date.month, m.date.day] ++ time
  "datetime.datetime(" ++ String.intercalate ", " (numbers.map fun (n : Nat) => decimalText n) ++
    (match m.offset with
      | none => ""
      | some micros => ", tzinfo=" ++ zoneText micros) ++ ")"

end Moment

end WorldQuery.Time
