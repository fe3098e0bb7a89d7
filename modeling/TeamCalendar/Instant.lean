import TeamCalendar.Instant.Calendar

/-!
# Instants

An instant of Coordinated Universal Time, to the nanosecond.  It is kept as a number of seconds from
1970-01-01T00:00:00 and a number of nanoseconds since that second began.  A leap second is the time
after the end of the last second of a minute: its instants count 1 000 000 000 nanoseconds and more
from the beginning of that last second.  Hence an instant of a leap second is later than everything
before it and earlier than the second that follows it.

* `Instant.truncate` drops what is below a microsecond; the result is never later.
* The order compares seconds, then nanoseconds.
-/

namespace TeamCalendar

namespace Instant

/-- The nanoseconds of a second. -/
def nanosPerSecond : Nat :=
  1000000000

/-- The seconds of a day. -/
def secondsPerDay : Int :=
  86400

/-- The first year that has instants. -/
def firstYear : Int :=
  -262143

/-- The last year that has instants. -/
def lastYear : Int :=
  262142

/-- The first second of the first year. -/
def firstSecond : Int :=
  Calendar.Date.number ⟨firstYear, 1, 1⟩ * secondsPerDay

/-- The last second of the last year. -/
def lastSecond : Int :=
  (Calendar.Date.number ⟨lastYear, 12, 31⟩ + 1) * secondsPerDay - 1

/-- The second lies in the years that have instants, and a leap second follows the last second of a
minute. -/
def Admissible (second : Int) (nano : Nat) : Prop :=
  firstSecond ≤ second ∧ second ≤ lastSecond ∧ nano < 2 * nanosPerSecond ∧
    (nanosPerSecond ≤ nano → second % 60 = 59)

instance (second : Int) (nano : Nat) : Decidable (Admissible second nano) :=
  inferInstanceAs (Decidable (_ ∧ _ ∧ _ ∧ (_ → _)))

end Instant

/-- An instant of Coordinated Universal Time. -/
structure Instant where
  /-- The seconds since 1970-01-01T00:00:00; a leap second counts into the one before it. -/
  second : Int
  /-- The nanoseconds since the second began. -/
  nano : Nat
  /-- The second and the nanoseconds belong to an instant. -/
  admissible : Instant.Admissible second nano
  deriving DecidableEq

namespace Instant

@[ext]
theorem ext {a b : Instant} (hs : a.second = b.second) (hn : a.nano = b.nano) : a = b := by
  cases a
  cases b
  simp_all

/-- The instant with the given seconds and nanoseconds, if there is one. -/
def ofParts? (second : Int) (nano : Nat) : Option Instant :=
  if h : Admissible second nano then some ⟨second, nano, h⟩ else none

/-- The beginning of 1970. -/
def epoch : Instant :=
  ⟨0, 0, by decide⟩

instance : Inhabited Instant :=
  ⟨epoch⟩

/-- The instant `a` is not later than `b`. -/
protected def le (a b : Instant) : Prop :=
  a.second < b.second ∨ a.second = b.second ∧ a.nano ≤ b.nano

/-- The instant `a` is earlier than `b`. -/
protected def lt (a b : Instant) : Prop :=
  a.second < b.second ∨ a.second = b.second ∧ a.nano < b.nano

instance : LE Instant :=
  ⟨Instant.le⟩

instance : LT Instant :=
  ⟨Instant.lt⟩

instance (a b : Instant) : Decidable (a ≤ b) :=
  inferInstanceAs (Decidable (_ ∨ _ ∧ _))

instance (a b : Instant) : Decidable (a < b) :=
  inferInstanceAs (Decidable (_ ∨ _ ∧ _))

theorem le_def {a b : Instant} :
    a ≤ b ↔ a.second < b.second ∨ a.second = b.second ∧ a.nano ≤ b.nano :=
  Iff.rfl

theorem lt_def {a b : Instant} :
    a < b ↔ a.second < b.second ∨ a.second = b.second ∧ a.nano < b.nano :=
  Iff.rfl

theorem not_lt {a b : Instant} : ¬a < b ↔ b ≤ a := by
  simp only [lt_def, le_def]
  constructor <;> intro h <;> omega

/-- Drops the part of the second that is below a microsecond. -/
def truncate (t : Instant) : Instant where
  second := t.second
  nano := t.nano - t.nano % 1000
  admissible := by
    obtain ⟨hfirst, hlast, hnano, hleap⟩ := t.admissible
    exact ⟨hfirst, hlast, by omega, fun h => hleap (by omega)⟩

theorem truncate_le (t : Instant) : t.truncate ≤ t := by
  exact le_def.2 (Or.inr ⟨rfl, Nat.sub_le _ _⟩)

@[simp]
theorem truncate_truncate (t : Instant) : t.truncate.truncate = t.truncate := by
  ext
  · rfl
  · simp only [truncate]
    omega

end Instant

end TeamCalendar
