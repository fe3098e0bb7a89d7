import TeamCalendar.Instant
import TeamCalendar.Text.Decimal

/-!
# Written instants

An instant is written as `YYYY-MM-DDTHH:MM:SS`, a fraction and `Z`.  The fraction has the fewest of
0, 3, 6 and 9 digits that are exact.  A year outside 0 to 9999 has a sign.  A leap second is second
60 of its minute.
-/

namespace TeamCalendar.Instant

open Text (paddedDigits)

/-- The written form of a year. -/
def yearText (year : Int) : List Char :=
  if 0 ≤ year ∧ year ≤ 9999 then paddedDigits 4 year.toNat
  else if year < 0 then '-' :: paddedDigits 4 year.natAbs
  else '+' :: paddedDigits 4 year.natAbs

/-- The written form of a fraction of a second, given in nanoseconds. -/
def fractionText (nanos : Nat) : List Char :=
  if nanos = 0 then []
  else if nanos % 1000000 = 0 then '.' :: paddedDigits 3 (nanos / 1000000)
  else if nanos % 1000 = 0 then '.' :: paddedDigits 6 (nanos / 1000)
  else '.' :: paddedDigits 9 nanos

/-- The written form, as characters. -/
def textChars (t : Instant) : List Char :=
  let date := Calendar.Date.ofNumber (t.second / secondsPerDay)
  let ofDay := (t.second % secondsPerDay).toNat
  let leap := t.nano / nanosPerSecond
  yearText date.year ++ '-' :: paddedDigits 2 date.month ++ '-' :: paddedDigits 2 date.day ++
    'T' :: paddedDigits 2 (ofDay / 3600) ++ ':' :: paddedDigits 2 (ofDay / 60 % 60) ++
    ':' :: paddedDigits 2 (ofDay % 60 + leap) ++ fractionText (t.nano % nanosPerSecond) ++ ['Z']

/-- The written form. -/
def text (t : Instant) : String :=
  String.ofList t.textChars

instance : ToString Instant where
  toString := text

end TeamCalendar.Instant
