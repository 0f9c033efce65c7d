/-!
# The proleptic Gregorian calendar

Days are counted from the first of January of year one, which is day one and a Monday. Dates run
from year one to year 9999. `Date.ordinal` counts days, `Date.ofOrdinal` finds the date of a count,
and `weekOrdinal` counts the day of an ISO week date.
-/

namespace WorldQuery.Time

def lastYear : Nat := 9999

def isLeap (year : Nat) : Bool := year % 4 == 0 && (year % 100 != 0 || year % 400 == 0)

def monthLengths (year : Nat) : List Nat :=
  [31, if isLeap year then 29 else 28, 31, 30, 31, 30, 31, 31, 30, 31, 30, 31]

/-- The length of a month, zero for a month that does not exist. -/
def monthLength (year month : Nat) : Nat :=
  if month = 0 then 0 else (monthLengths year).getD (month - 1) 0

def daysBeforeYear (year : Nat) : Nat :=
  let past := year - 1
  past * 365 + past / 4 - past / 100 + past / 400

def daysBeforeMonth (year month : Nat) : Nat :=
  ((monthLengths year).take (month - 1)).foldr (· + ·) 0

/-- A calendar date; `Date.Valid` says which fields belong together. -/
structure Date where
  year : Nat
  month : Nat
  day : Nat
  deriving DecidableEq, Repr

namespace Date

/-- The date exists in the calendar. -/
def Valid (d : Date) : Prop :=
  1 ≤ d.year ∧ d.year ≤ lastYear ∧ 1 ≤ d.month ∧ d.month ≤ 12 ∧
    1 ≤ d.day ∧ d.day ≤ monthLength d.year d.month

instance (d : Date) : Decidable d.Valid := by
  unfold Valid
  infer_instance

/-- The number of a date, counted from the first day of year one. -/
def ordinal (d : Date) : Nat := daysBeforeYear d.year + daysBeforeMonth d.year d.month + d.day

def lastOrdinal : Nat := 3652059

/-- The year that a day falls in. The mean length of a year gives it up to one. -/
def yearOfOrdinal (n : Nat) : Nat :=
  let guess := (n - 1) * 400 / 146097 + 1
  if n ≤ daysBeforeYear guess then guess - 1
  else if daysBeforeYear (guess + 1) < n then guess + 1
  else guess

/-- Month and day of the `n`-th day among months of the given lengths, counted from `month`. -/
def findMonth (month : Nat) : List Nat → Nat → Nat × Nat
  | [], n => (month, n)
  | length :: rest, n => if n ≤ length then (month, n) else findMonth (month + 1) rest (n - length)

def ofOrdinal (n : Nat) : Date :=
  let year := yearOfOrdinal n
  let (month, day) := findMonth 1 (monthLengths year) (n - daysBeforeYear year)
  ⟨year, month, day⟩

end Date

/-- The day of the week of a numbered day, Monday being zero. -/
def weekday (n : Int) : Int := Int.emod (n - 1) 7

/-- The number of the first of January, also of year zero. -/
def firstOfYear (year : Nat) : Int := if year = 0 then -365 else (daysBeforeYear year : Int) + 1

/-- The Monday of the first ISO week of a year, the week that holds its first Thursday. -/
def firstMonday (year : Nat) : Int :=
  let first := firstOfYear year
  let day := weekday first
  if 3 < day then first - day + 7 else first - day

/-- A year of 53 ISO weeks starts on a Thursday, or on a Wednesday if it is a leap year. -/
def hasLongWeekYear (year : Nat) : Bool :=
  let day := weekday (firstOfYear year)
  year != 0 && (day == 3 || (day == 2 && isLeap year))

/-- The number of a day given by ISO year, week and weekday; `none` if there is no such week or
weekday. The number may lie outside the calendar at both of its ends. -/
def weekOrdinal (year week day : Nat) : Option Int :=
  if 1 ≤ week ∧ (week ≤ 52 ∨ (week = 53 ∧ hasLongWeekYear year)) ∧ 1 ≤ day ∧ day ≤ 7 then
    some (firstMonday year + (week - 1) * 7 + (day - 1))
  else none

end WorldQuery.Time
