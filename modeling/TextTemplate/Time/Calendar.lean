/-!
# Calendar

Dates of the Gregorian calendar, extended to all years, and their day numbers counted from the first
of January 1970. `Date.dayNumber` and `Date.ofDayNumber` convert between the two; both count years
from the first of March, so that a leap day ends its year.
-/

namespace TextTemplate.Time

/-- A year, a month and a day of the month, real or not. -/
structure Date where
  year : Int
  month : Nat
  day : Nat
deriving DecidableEq, Repr

/-- Whether the year has a leap day. -/
def isLeapYear (year : Int) : Bool :=
  year % 4 == 0 && (year % 100 != 0 || year % 400 == 0)

/-- The number of days of a month; a number that names no month has none. -/
def daysInMonth (year : Int) (month : Nat) : Nat :=
  if month = 2 then if isLeapYear year then 29 else 28
  else if month = 4 ∨ month = 6 ∨ month = 9 ∨ month = 11 then 30
  else if 1 ≤ month ∧ month ≤ 12 then 31
  else 0

/-- Whether the calendar has the date. -/
def Date.isReal (date : Date) : Bool :=
  decide (1 ≤ date.day) && decide (date.day ≤ daysInMonth date.year date.month)

/-- The number of days in four hundred years. -/
def daysPerCycle : Int := 146097

/-- The day number of the first of March of the year zero. -/
def cycleOrigin : Int := -719468

/-- The number of days from the first of January 1970 to the date. -/
def Date.dayNumber (date : Date) : Int :=
  let year := if date.month ≤ 2 then date.year - 1 else date.year
  let monthFromMarch : Int := if date.month ≤ 2 then date.month + 9 else (date.month : Int) - 3
  let cycle := year / 400
  let yearOfCycle := year % 400
  let dayOfYear := (153 * monthFromMarch + 2) / 5 + date.day - 1
  let dayOfCycle := 365 * yearOfCycle + yearOfCycle / 4 - yearOfCycle / 100 + dayOfYear
  cycle * daysPerCycle + dayOfCycle + cycleOrigin

/-- The date that is `number` days after the first of January 1970. -/
def Date.ofDayNumber (number : Int) : Date :=
  let fromOrigin := number - cycleOrigin
  let cycle := fromOrigin / daysPerCycle
  let dayOfCycle := fromOrigin % daysPerCycle
  let yearOfCycle :=
    (dayOfCycle - dayOfCycle / 1460 + dayOfCycle / 36524 - dayOfCycle / 146096) / 365
  let dayOfYear := dayOfCycle - (365 * yearOfCycle + yearOfCycle / 4 - yearOfCycle / 100)
  let monthFromMarch := (5 * dayOfYear + 2) / 153
  let day := dayOfYear - (153 * monthFromMarch + 2) / 5 + 1
  let month := if monthFromMarch < 10 then monthFromMarch + 3 else monthFromMarch - 9
  let year := yearOfCycle + 400 * cycle + (if month ≤ 2 then 1 else 0)
  ⟨year, month.toNat, day.toNat⟩

end TextTemplate.Time
