import TeamCalendar.Instant

/-!
# Microseconds

A database keeps a time as a number of microseconds from the beginning of 2000, before which it is
negative.  In this count a leap second coincides with the second that follows it.
-/

namespace TeamCalendar.Instant

/-- The second with which the year 2000 begins. -/
def second2000 : Int :=
  946684800

/-- The microseconds from the beginning of 2000, those begun being dropped towards it. -/
def toMicros (t : Instant) : Int :=
  Int.tdiv ((t.second - second2000) * nanosPerSecond + t.nano) 1000

/-- The instant that is some microseconds from the beginning of 2000, if there is one. -/
def ofMicros? (micros : Int) : Option Instant :=
  ofParts? (second2000 + micros / 1000000) (1000 * (micros % 1000000).toNat)

example : toMicros ⟨second2000 + 59, 1000000000, by decide⟩ = 60000000 := by
  decide

end TeamCalendar.Instant
