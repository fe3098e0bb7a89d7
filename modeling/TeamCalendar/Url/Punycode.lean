import TeamCalendar.Text.Case

/-!
# Punycode

The form of a label with characters outside of the Basic Latin block.  The characters of that block
come first, then a hyphen, then for each other character, in the order of code points, how far it is
from the one before.  The distances are numbers to the base 36 with the lowest digit first; a digit
below a threshold is the last one of its number, and the thresholds follow the numbers read so far.
-/

namespace TeamCalendar.Url.Punycode

/-- The value of a digit: the letters come before the digits. -/
def digitValue? (c : Char) : Option Nat :=
  if 'a' ≤ c ∧ c ≤ 'z' then some (c.toNat - 0x61)
  else if '0' ≤ c ∧ c ≤ '9' then some (c.toNat - 0x30 + 26)
  else none

/-- The threshold of the digit at a position, which is given as a multiple of 36. -/
def threshold (position bias : Nat) : Nat :=
  min 26 (max 1 (position - bias))

/-- Reads one number and adds it to `sum`; each digit counts `weight` times its value. -/
def readNumber? (bias : Nat) :
    (position weight sum : Nat) → List Char → Option (Nat × List Char)
  | _, _, _, [] => none
  | position, weight, sum, c :: rest => do
    let digit ← digitValue? c
    let sum := sum + digit * weight
    let limit := threshold position bias
    if digit < limit then some (sum, rest)
    else readNumber? bias (position + 36) (weight * (36 - limit)) sum rest

theorem length_of_readNumber? {bias : Nat} :
    ∀ {cs : List Char} {position weight sum : Nat} {result : Nat × List Char},
      readNumber? bias position weight sum cs = some result → result.2.length < cs.length
  | [], _, _, _, _, h => by simp [readNumber?] at h
  | c :: rest, position, weight, sum, result, h => by
    simp only [readNumber?, Option.bind_eq_bind, Option.bind_eq_some_iff] at h
    obtain ⟨digit, _, h⟩ := h
    split at h
    · cases h
      simp
    · exact Nat.lt_succ_of_lt (length_of_readNumber? h)

/-- Divides by 35 until 455 is not exceeded, and tells how often by a multiple of 36. -/
def shrink (delta steps : Nat) : Nat × Nat :=
  if 455 < delta then shrink (delta / 35) (steps + 36) else (delta, steps)
termination_by delta

/-- The bias after a distance was read; the first distance is reduced most. -/
def adapt (delta count : Nat) (isFirst : Bool) : Nat :=
  let reduced := if isFirst then delta / 700 else delta / 2
  let (rest, steps) := shrink (reduced + reduced / count) 0
  steps + 36 * rest / (rest + 38)

/-- The character with a code point. -/
def char? (code : Nat) : Option Char :=
  if h : code.isValidChar then some (Char.ofNatAux code h) else none

/-- Inserts the characters that the distances in `cs` tell.  The last one inserted had the code point
`code`, and `start` is the place after it. -/
def insertAll? (bias code start : Nat) (out : List Char) (cs : List Char) : Option (List Char) :=
  match cs with
  | [] => some out
  | c :: rest =>
    match h : readNumber? bias 36 1 start (c :: rest) with
    | none => none
    | some (sum, remaining) =>
      let count := out.length + 1
      let place := sum % count
      have : remaining.length < (c :: rest).length := length_of_readNumber? h
      match char? (code + sum / count) with
      | none => none
      | some inserted =>
        insertAll? (adapt (sum - start) count (start == 0)) inserted.toNat (place + 1)
          (out.insertIdx place inserted) remaining
termination_by cs.length
decreasing_by exact this

/-- Reads a label, of which all characters have to be of the Basic Latin block. -/
def decode? (label : List Char) : Option (List Char) :=
  let distances := (label.reverse.takeWhile (· ≠ '-')).reverse
  let out := label.take (label.length - distances.length - 1)
  insertAll? 72 0x80 0 out (label.drop (if out.isEmpty then 0 else out.length + 1))

end TeamCalendar.Url.Punycode
