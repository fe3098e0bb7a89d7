/-!
# The calendar

Days of the proleptic Gregorian calendar, numbered from 1970-01-01.  Years are counted from March,
so that the leap day is the last of its year: a period of 400 such years has 146097 days and falls
into four centuries, a century into four-year periods, and each of these into years.
-/

namespace TeamCalendar.Calendar

/-- A day of the calendar. -/
structure Date where
  /-- The year; the year before year 1 is year 0. -/
  year : Int
  /-- The month, from 1. -/
  month : Nat
  /-- The day of the month, from 1. -/
  day : Nat
  deriving DecidableEq

/-- Whether a year has a leap day. -/
def isLeap (year : Int) : Bool :=
  year % 4 = 0 ∧ (year % 100 ≠ 0 ∨ year % 400 = 0)

/-- The number of days of a month. -/
def daysInMonth (year : Int) (month : Nat) : Nat :=
  if month = 2 then (if isLeap year then 29 else 28)
  else if month = 4 ∨ month = 6 ∨ month = 9 ∨ month = 11 then 30
  else 31

/-- Whether a month and a day of it exist in the year. -/
def Date.Exists (date : Date) : Prop :=
  1 ≤ date.month ∧ date.month ≤ 12 ∧ 1 ≤ date.day ∧ date.day ≤ daysInMonth date.year date.month

instance (date : Date) : Decidable date.Exists :=
  inferInstanceAs (Decidable (_ ∧ _ ∧ _ ∧ _))

/-- The days of a period of 400 years. -/
def daysPerEra : Int :=
  146097

/-- The days from 0000-03-01 to 1970-01-01. -/
def epochOffset : Int :=
  719468

/-- The days before a month, counted from March as month 0. -/
def daysBeforeMonth (shifted : Int) : Int :=
  (153 * shifted + 2) / 5

/-- The number of a day, from 1970-01-01. -/
def Date.number (date : Date) : Int :=
  let shifted : Int := (date.month + 9) % 12
  let year := if date.month ≤ 2 then date.year - 1 else date.year
  let yearOfEra := year % 400
  let dayOfYear := daysBeforeMonth shifted + date.day - 1
  year / 400 * daysPerEra + (365 * yearOfEra + yearOfEra / 4 - yearOfEra / 100 + dayOfYear) -
    epochOffset

/-- The day with a number. -/
def Date.ofNumber (number : Int) : Date :=
  let days := number + epochOffset
  let dayOfEra := days % daysPerEra
  let century := min (dayOfEra / 36524) 3
  let dayOfCentury := dayOfEra - 36524 * century
  let quadrennium := dayOfCentury / 1461
  let dayOfQuadrennium := dayOfCentury - 1461 * quadrennium
  let yearOfQuadrennium := min (dayOfQuadrennium / 365) 3
  let dayOfYear := dayOfQuadrennium - 365 * yearOfQuadrennium
  let shifted := (5 * dayOfYear + 2) / 153
  let year := days / daysPerEra * 400 + 100 * century + 4 * quadrennium + yearOfQuadrennium
  { year := if shifted < 10 then year else year + 1
    month := ((shifted + 2) % 12 + 1).toNat
    day := (dayOfYear - daysBeforeMonth shifted + 1).toNat }

end TeamCalendar.Calendar
