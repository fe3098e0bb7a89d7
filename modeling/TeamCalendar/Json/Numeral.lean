import TeamCalendar.Json.Number
import TeamCalendar.Json.Reader

/-!
# Numerals

A numeral is an optional minus sign, digits without a leading zero, optionally a point and digits,
and optionally an exponent.  A numeral that is read has to be in range.  Its value is kept only if it
is a whole number that is written without point and exponent and fits in 64 bits.
-/

namespace TeamCalendar.Json

open Reader

/-- The value of a byte that is a decimal digit. -/
def digitOf? (b : UInt8) : Option Nat :=
  if 0x30 ≤ b ∧ b ≤ 0x39 then some (b.toNat - 0x30) else none

/-- Whether a byte is a decimal digit. -/
def isDigitByte (b : UInt8) : Bool :=
  (digitOf? b).isSome

/-- The byte of a minus sign. -/
@[match_pattern]
abbrev minusSign : UInt8 :=
  0x2d

/-- Reads the digits that come next. -/
def readDigits : Reader (List Nat) :=
  fun bytes =>
    .ok ((bytes.takeWhile isDigitByte).filterMap digitOf?, bytes.dropWhile isDigitByte)

/-- Reads digits of which at least one has to be there. -/
def readSomeDigits : Reader (List Nat) := do
  match ← readDigits with
  | [] => if (← ahead).isNone then fail .ended else fail .malformed
  | digits => pure digits

/-- Reads the digits before the point. -/
def readWhole : Reader (List Nat) := do
  match ← readSomeDigits with
  | 0 :: _ :: _ => fail .malformed
  | digits => pure digits

/-- Reads a point and the digits after it, if there is a point. -/
def readFraction? : Reader (Option (List Nat)) := do
  if (← ahead) = some 0x2e then
    advance
    some <$> readSomeDigits
  else
    pure none

/-- The largest exponent that is told from larger ones. -/
def exponentCap : Nat :=
  Number.maxExponent + 1

/-- Reads an exponent, if there is one: whether it is negative, and its size. -/
def readExponent? : Reader (Option (Bool × Nat)) := do
  let b ← ahead
  if b = some 0x65 ∨ b = some 0x45 then
    advance
    let sign ← ahead
    if sign = some 0x2b ∨ sign = some minusSign then
      advance
    let digits ← readSomeDigits
    pure (some (decide (sign = some minusSign),
      digits.foldl (fun n digit => min (10 * n + digit) exponentCap) 0))
  else
    pure none

/-- The value of whole digits, if it fits in 64 bits; a minus sign before zero, or before more than
the least number of 64 bits with a sign, gives no whole number. -/
def wholeValue? (negative : Bool) (digits : List Nat) : Option Int :=
  let s := Number.significand digits []
  if s.exponent ≠ 0 then none
  else if negative then
    (if 0 < s.value ∧ s.value ≤ 0x8000000000000000 then some (-s.value) else none)
  else some s.value

/-- Reads a numeral, as the whole number that it is, if it is one. -/
def readNumeral : Reader (Option Int) := do
  let negative := decide ((← ahead) = some minusSign)
  if negative then
    advance
  let whole ← readWhole
  let fraction ← readFraction?
  let exponent ← readExponent?
  if fraction.isNone ∧ exponent.isNone then
    if Number.inRange whole [] false 0 then pure (wholeValue? negative whole) else fail .malformed
  else
    let (negativeExponent, size) := exponent.getD (false, 0)
    if Number.inRange whole (fraction.getD []) negativeExponent size then
      pure none
    else
      fail .malformed

/-- Steps over digits of which at least one has to be there. -/
def skipSomeDigits : Reader Unit := do
  if (← readDigits).isEmpty then fail .malformed else pure ()

/-- Steps over a numeral, whatever its range; one that breaks off is no numeral. -/
def skipNumeral : Reader Unit := do
  if (← ahead) = some minusSign then
    advance
  match ← readDigits with
  | [] => fail .malformed
  | 0 :: _ :: _ => fail .malformed
  | _ => pure ()
  if (← ahead) = some 0x2e then
    advance
    skipSomeDigits
  let b ← ahead
  if b = some 0x65 ∨ b = some 0x45 then
    advance
    let sign ← ahead
    if sign = some 0x2b ∨ sign = some minusSign then
      advance
    skipSomeDigits

end TeamCalendar.Json
