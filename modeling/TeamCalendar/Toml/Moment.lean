import TeamCalendar.Instant.Calendar
import TeamCalendar.Text.Decimal
import TeamCalendar.Toml.Scanner

/-!
# Dates and times of day

A moment is a date, a time of day, or both with a letter or a blank between them; only with a date
may an offset follow.  The second may be 60.
-/

namespace TeamCalendar.Toml

open Scanner

/-- Takes a number of exactly `count` digits. -/
def fixedNumber (count : Nat) : Scanner Nat :=
  fun cs =>
    let (digits, rest) := Text.takeDigits count cs
    if digits.length = count then some (Text.ofDigits digits, rest) else none

/-- Takes two digits that stand for at most `most`. -/
def twoDigits (most : Nat) : Scanner Unit := do
  if most < (← fixedNumber 2) then failure

/-- Takes a date that exists. -/
def date : Scanner Unit := do
  let year ← fixedNumber 4
  char '-'
  let month ← fixedNumber 2
  char '-'
  let day ← fixedNumber 2
  if ¬ Calendar.Date.Exists { year, month, day } then failure

/-- Takes a time of day. -/
def timeOfDay : Scanner Unit := do
  twoDigits 23
  char ':'
  twoDigits 59
  char ':'
  twoDigits 60
  let _ ← optional do
    char '.'
    let _ ← satisfying Text.isDigit
    skip Text.isDigit

/-- Takes an offset. -/
def offset : Scanner Unit := do
  let c ← satisfying fun c => c == 'Z' || c == 'z' || c == '+' || c == '-'
  if c == '+' || c == '-' then
    twoDigits 23
    char ':'
    twoDigits 59

/-- Takes what makes a date a date with a time of day. -/
def timeAfterDate : Scanner Unit := do
  let _ ← satisfying fun c => c == 'T' || c == 't' || c == ' '
  timeOfDay
  let _ ← optional offset

/-- Takes a date with an optional time of day, or a time of day. -/
def moment : Scanner String :=
  String.ofList <$> spelling ((do
    date
    let _ ← optional timeAfterDate) <|> timeOfDay)

end TeamCalendar.Toml
