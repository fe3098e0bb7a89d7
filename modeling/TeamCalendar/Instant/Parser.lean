import TeamCalendar.Instant
import TeamCalendar.Text.Blank
import TeamCalendar.Text.Decimal

/-!
# Reading instants

The accepted form is a date, a separator, a time of day and an offset:
`year - month - day`, then `T`, `t` or a space, then `hour : minute : second`, then optionally a
point and digits, then the offset.  Blanks may stand before each number, around each hyphen and
colon, before the offset and at the end.

* A year without a sign has at most four digits; the other numbers have at most two.
* Second 60 is the leap second of its minute, whichever minute that is.
* Of the digits after the point, those past the ninth are dropped.
* The offset is `Z`, `UTC`, or a sign with two digits for hours and two for minutes, which may have
  colons and blanks between them.  It is subtracted and not kept.
-/

namespace TeamCalendar.Instant

open Text (trimStartChars readNumber? isBlank isDigit takeDigits ofDigits)

/-- A date and a time of day as they were read, before it is known whether they exist. -/
structure Reading where
  /-- The year. -/
  year : Int
  /-- The month. -/
  month : Nat
  /-- The day of the month. -/
  day : Nat
  /-- The hour. -/
  hour : Nat
  /-- The minute. -/
  minute : Nat
  /-- The second, at most 60. -/
  second : Nat
  /-- The fraction of the second, in nanoseconds. -/
  nanos : Nat
  /-- What local time is ahead of Coordinated Universal Time, in minutes. -/
  offset : Int

/-- Steps over one character, which has to be `c`. -/
def expect? (c : Char) : List Char → Option (List Char)
  | [] => none
  | d :: rest => if d = c then some rest else none

/-- Reads a number of at most two digits with blanks before it. -/
def readPart? (cs : List Char) : Option (Nat × List Char) :=
  readNumber? 2 (trimStartChars cs)

/-- Reads a year with blanks before it. -/
def readYear? (cs : List Char) : Option (Int × List Char) :=
  match trimStartChars cs with
  | '-' :: rest => (readNumber? rest.length rest).map fun (n, rest) => (-(n : Int), rest)
  | '+' :: rest => (readNumber? rest.length rest).map fun (n, rest) => ((n : Int), rest)
  | rest => (readNumber? 4 rest).map fun (n, rest) => ((n : Int), rest)

/-- Steps over a mark with blanks before it. -/
def readMark? (c : Char) (cs : List Char) : Option (List Char) :=
  expect? c (trimStartChars cs)

/-- Steps over the separator between date and time. -/
def readSeparator? : List Char → Option (List Char)
  | [] => none
  | c :: rest => if c = 'T' ∨ c = 't' ∨ c = ' ' then some rest else none

/-- Reads a fraction, if one follows, in nanoseconds. -/
def readFraction? : List Char → Option (Nat × List Char)
  | '.' :: rest =>
    match takeDigits 9 rest with
    | ([], _) => none
    | (digits, rest) =>
      some (ofDigits digits * Nat.pow 10 (9 - digits.length), rest.dropWhile isDigit)
  | rest => some (0, rest)

/-- Reads exactly two digits. -/
def readPair? : List Char → Option (Nat × List Char)
  | a :: b :: rest => if isDigit a ∧ isDigit b then some (ofDigits [a, b], rest) else none
  | _ => none

/-- Reads hours and minutes, in minutes. -/
def readHoursAndMinutes? (cs : List Char) : Option (Nat × List Char) := do
  let (hours, rest) ← readPair? cs
  let (minutes, rest) ← readPair? (rest.dropWhile fun c => c = ':' || isBlank c)
  if minutes < 60 then some (60 * hours + minutes, rest) else none

/-- Reads an offset with blanks before it, in minutes. -/
def readOffset? (cs : List Char) : Option (Int × List Char) :=
  match trimStartChars cs with
  | 'Z' :: rest => some (0, rest)
  | 'z' :: rest => some (0, rest)
  | '+' :: rest => (readHoursAndMinutes? rest).map fun (n, rest) => ((n : Int), rest)
  | '-' :: rest => (readHoursAndMinutes? rest).map fun (n, rest) => (-(n : Int), rest)
  | '−' :: rest => (readHoursAndMinutes? rest).map fun (n, rest) => (-(n : Int), rest)
  | rest =>
    if (rest.take 3).map Char.toUpper = ['U', 'T', 'C'] then some (0, rest.drop 3) else none

/-- Reads the parts of an instant from all the given characters. -/
def readParts? (cs : List Char) : Option Reading := do
  let (year, rest) ← readYear? cs
  let rest ← readMark? '-' rest
  let (month, rest) ← readPart? rest
  let rest ← readMark? '-' rest
  let (day, rest) ← readPart? rest
  let rest ← readSeparator? rest
  let (hour, rest) ← readPart? rest
  let rest ← readMark? ':' rest
  let (minute, rest) ← readPart? rest
  let rest ← readMark? ':' rest
  let (second, rest) ← readPart? rest
  let (nanos, rest) ← readFraction? rest
  let (offset, rest) ← readOffset? rest
  if (trimStartChars rest).isEmpty then
    some { year, month, day, hour, minute, second, nanos, offset }
  else
    none

/-- The instant that was read, if the date and the time of day exist and both local time and
Coordinated Universal Time lie in the years that have instants. -/
def Reading.instant? (reading : Reading) : Option Instant :=
  let date : Calendar.Date := ⟨reading.year, reading.month, reading.day⟩
  let (second, nano) :=
    if reading.second = 60 then (59, nanosPerSecond + reading.nanos)
    else (reading.second, reading.nanos)
  if firstYear ≤ reading.year ∧ reading.year ≤ lastYear ∧ date.Exists ∧ reading.hour < 24 ∧
      reading.minute < 60 ∧ reading.second ≤ 60 ∧ reading.offset.natAbs < 24 * 60 then
    ofParts? (date.number * secondsPerDay +
      (3600 * reading.hour + 60 * reading.minute + second : Nat) - 60 * reading.offset) nano
  else
    none

/-- Reads an instant. -/
def parse? (s : String) : Option Instant :=
  (readParts? s.toList).bind Reading.instant?

end TeamCalendar.Instant
