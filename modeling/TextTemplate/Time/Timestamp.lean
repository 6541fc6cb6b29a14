import TextTemplate.Number.Digits
import TextTemplate.Time.Calendar

/-!
# Timestamps

An instant together with the offset of the clock that showed it. Two timestamps are equal when
their instants are, whatever the offsets. A leap second is kept: its nanoseconds run from one to two
thousand millions, and it is printed as second sixty.
-/

namespace TextTemplate.Time

/-- The number of nanoseconds in a second. -/
def nanosPerSecond : Nat := 1000000000

/-- The time a clock shows: a date, an hour, a minute, a second up to sixty and nanoseconds. -/
structure ClockTime where
  date : Date
  hour : Nat
  minute : Nat
  second : Nat
  nanos : Nat
deriving DecidableEq, Repr

/-- Whether a clock can show the time. Every minute may have a leap second. -/
def ClockTime.isReal (time : ClockTime) : Bool :=
  time.date.isReal && decide (time.hour < 24) && decide (time.minute < 60) &&
    decide (time.second ≤ 60) && decide (time.nanos < nanosPerSecond)

/-- An instant and the offset, in seconds east of Greenwich, of the clock that showed it. -/
structure Timestamp where
  /-- Seconds since the start of 1970, without leap seconds. -/
  seconds : Int
  /-- Nanoseconds, at least `nanosPerSecond` within a leap second. -/
  nanos : Nat
  offset : Int
deriving DecidableEq, Repr

namespace Timestamp

/-- Whether two timestamps denote the same instant. -/
def sameInstant (x y : Timestamp) : Bool :=
  x.seconds == y.seconds && x.nanos == y.nanos

/-- The instant at which a clock with the offset shows the time. -/
def ofClock (time : ClockTime) (offset : Int) : Timestamp :=
  let dayStart := time.date.dayNumber * 86400
  let inDay : Int := time.hour * 3600 + time.minute * 60
  if time.second = 60 then ⟨dayStart + inDay + 59 - offset, time.nanos + nanosPerSecond, offset⟩
  else ⟨dayStart + inDay + time.second - offset, time.nanos, offset⟩

/-- The time that the clock shows. -/
def toClock (t : Timestamp) : ClockTime :=
  let shown := t.seconds + t.offset
  let inDay := (shown % 86400).toNat
  let leap := decide (nanosPerSecond ≤ t.nanos)
  { date := Date.ofDayNumber (shown / 86400)
    hour := inDay / 3600
    minute := inDay / 60 % 60
    second := inDay % 60 + (if leap then 1 else 0)
    nanos := if leap then t.nanos - nanosPerSecond else t.nanos }

/-- How the offset zero is written. -/
inductive ZeroOffset where
  | letter
  | digits
deriving DecidableEq, Repr

/-- The fraction of a second in as few of zero, three, six or nine digits as hold it. -/
def fractionDigits (nanos : Nat) : List Char :=
  if nanos = 0 then []
  else if nanos % 1000000 = 0 then '.' :: Number.paddedDigits 3 (nanos / 1000000)
  else if nanos % 1000 = 0 then '.' :: Number.paddedDigits 6 (nanos / 1000)
  else '.' :: Number.paddedDigits 9 nanos

/-- The offset as hours and minutes with a sign. -/
def offsetDigits (zero : ZeroOffset) (offset : Int) : List Char :=
  if offset = 0 ∧ zero = .letter then ['Z']
  else
    let minutes := offset.natAbs / 60
    (if offset < 0 then '-' else '+') :: (Number.paddedDigits 2 (minutes / 60) ++
      ':' :: Number.paddedDigits 2 (minutes % 60))

/-- A year in four digits. Years for which these do not suffice have a sign, and as many digits as
they need. -/
def yearDigits (year : Int) : List Char :=
  if 0 ≤ year ∧ year < 10000 then Number.paddedDigits 4 year.toNat
  else (if year < 0 then '-' else '+') :: Number.paddedDigits 4 year.natAbs

/-- The characters of the timestamp's text: date, `T`, time and offset. -/
def digits (zero : ZeroOffset) (t : Timestamp) : List Char :=
  let time := t.toClock
  yearDigits time.date.year ++ '-' :: Number.paddedDigits 2 time.date.month ++
    '-' :: Number.paddedDigits 2 time.date.day ++ 'T' :: Number.paddedDigits 2 time.hour ++
    ':' :: Number.paddedDigits 2 time.minute ++ ':' :: Number.paddedDigits 2 time.second ++
    fractionDigits time.nanos ++ offsetDigits zero t.offset

/-- The text of a timestamp in rendered values. -/
def text (t : Timestamp) : String :=
  String.ofList (t.digits .digits)

/-- The text of a timestamp in the interchange form of trees. -/
def interchangeText (t : Timestamp) : String :=
  String.ofList (t.digits .letter)

end Timestamp

end TextTemplate.Time
