/-!
# The range of numbers

A number is read into a significand of 64 bits and a power of ten, digits past the significand's
capacity being dropped.  It is in range if the significand and the power, each rounded to a double,
have a product that rounds to a finite double.  Where only the shape of a number counts, its range
does not.
-/

namespace TeamCalendar.Json.Number

/-- The nearest double to a number, as a number; of two that are equally near, the even one. -/
def nearestDouble (n : Nat) : Nat :=
  let excess := n.log2 + 1 - 53
  let unit := Nat.pow 2 excess
  let low := n / unit
  let rest := n % unit
  if 2 * rest > unit ∨ (2 * rest = unit ∧ low % 2 = 1) then (low + 1) * unit else low * unit

/-- The numbers from here on round to infinity. -/
def overflowBound : Nat :=
  Nat.pow 2 1024 - Nat.pow 2 970

/-- Whether a significand times a power of ten is out of range. -/
def Overflows (significand : Nat) (exponent : Int) : Prop :=
  significand ≠ 0 ∧ 0 < exponent ∧
    (308 < exponent ∨
      overflowBound ≤ nearestDouble significand * nearestDouble (Nat.pow 10 exponent.toNat))

instance (significand : Nat) (exponent : Int) : Decidable (Overflows significand exponent) :=
  inferInstanceAs (Decidable (_ ∧ _ ∧ _))

/-- A significand as far as it has been read. -/
structure Significand where
  /-- The value of the digits that count. -/
  value : Nat
  /-- The power of ten that goes with it. -/
  exponent : Int
  /-- Whether the digits to come are dropped. -/
  full : Bool

/-- Whether one more digit exceeds the capacity of a significand. -/
def exceeds (value digit : Nat) : Bool :=
  0x10000000000000000 ≤ 10 * value + digit

/-- Takes in a digit before the point. -/
def Significand.addWhole (s : Significand) (digit : Nat) : Significand :=
  if s.full || exceeds s.value digit then { s with exponent := s.exponent + 1, full := true }
  else { s with value := 10 * s.value + digit }

/-- Takes in a digit after the point. -/
def Significand.addFraction (s : Significand) (digit : Nat) : Significand :=
  if s.full || exceeds s.value digit then { s with full := true }
  else { s with value := 10 * s.value + digit, exponent := s.exponent - 1 }

/-- The significand of the digits before and after the point. -/
def significand (whole fraction : List Nat) : Significand :=
  let s := whole.foldl Significand.addWhole ⟨0, 0, false⟩
  fraction.foldl Significand.addFraction { s with full := false }

/-- The largest exponent that can be written out. -/
def maxExponent : Nat :=
  0x7FFFFFFF

/-- Whether a number with the given digits and exponent is in range; an exponent too large to be
kept is out of range unless it is negative or the number is zero. -/
def inRange (whole fraction : List Nat) (negative : Bool) (exponent : Nat) : Bool :=
  let s := significand whole fraction
  if maxExponent < exponent then
    negative || s.value == 0
  else
    let exponent : Int := if negative then -exponent else exponent
    !decide (Overflows s.value (s.exponent + exponent))

end TeamCalendar.Json.Number
