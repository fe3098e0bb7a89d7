import TeamCalendar.Text.Decimal
import TeamCalendar.Text.Hex
import TeamCalendar.Toml.Scanner

/-!
# Numerals

A whole number is decimal, with an optional sign and no needless zero in front, or it is written with
sixteen, eight or two digits after `0x`, `0o` or `0b`.  Digits may be parted by single underscores.
A whole number fits in 64 bits with a sign.  Other numbers have a point with digits on both sides, or
an exponent, or both; they are limited by the range of doubles.
-/

namespace TeamCalendar.Toml

open Scanner

/-- Takes digits with a property, which single underscores may part, onto the ones taken before. -/
def moreDigits (isDigit : Char → Bool) (taken : List Char) : List Char → List Char × List Char
  | '_' :: c :: rest =>
    if isDigit c then moreDigits isDigit (c :: taken) rest else (taken.reverse, '_' :: c :: rest)
  | c :: rest =>
    if isDigit c then moreDigits isDigit (c :: taken) rest else (taken.reverse, c :: rest)
  | [] => (taken.reverse, [])

/-- Takes one digit or more, parted by single underscores at most; the underscores are left out. -/
def digits (isDigit : Char → Bool) : Scanner (List Char) := do
  let first ← satisfying isDigit
  fun cs => some (moreDigits isDigit [first] cs)

/-- Takes an optional sign and tells whether it is a minus. -/
def sign : Scanner Bool :=
  fun
  | '+' :: rest => some (false, rest)
  | '-' :: rest => some (true, rest)
  | cs => some (false, cs)

/-- Takes decimal digits without a needless zero in front. -/
def wholeDigits : Scanner (List Char) := do
  if (← ahead) = some '0' then
    char '0'
    pure ['0']
  else
    digits Text.isDigit

/-- Whether a character is a digit to a base of at most sixteen. -/
def isDigitOf (base : Nat) (c : Char) : Bool :=
  match Text.hexValue? c with
  | some value => value < base
  | none => false

/-- The number that digits to a base stand for. -/
def ofDigitsOf (base : Nat) (cs : List Char) : Nat :=
  cs.foldl (fun n c => base * n + (Text.hexValue? c).getD 0) 0

/-- Whether a number fits in 64 bits with a sign. -/
def Fits (n : Int) : Prop :=
  -0x8000000000000000 ≤ n ∧ n < 0x8000000000000000

instance (n : Int) : Decidable (Fits n) :=
  inferInstanceAs (Decidable (_ ∧ _))

/-- Passes on a number that fits in 64 bits with a sign. -/
def fitting (n : Int) : Scanner Int :=
  if Fits n then pure n else failure

/-- Reads a whole number to the base that a letter stands for, after `0`. -/
def basedInteger (letter : Char) (base : Nat) : Scanner Int := do
  word ['0', letter]
  let cs ← digits (isDigitOf base)
  fitting (ofDigitsOf base cs)

/-- Reads a decimal whole number. -/
def decimalInteger : Scanner Int := do
  let negative ← sign
  let cs ← wholeDigits
  let n : Int := Text.ofDigits cs
  fitting (if negative then -n else n)

/-- Reads a whole number. -/
def integer : Scanner Int :=
  basedInteger 'x' 16 <|> basedInteger 'o' 8 <|> basedInteger 'b' 2 <|> decimalInteger

/-- The numbers from here on round to infinity as doubles. -/
def doubleBound : Nat :=
  Nat.pow 2 1024 - Nat.pow 2 970

/-- Whether a number, given by its digits without a point and a power of ten, rounds to infinity.
The lengths are compared first, so that no large power is computed in vain. -/
def roundsToInfinity (digits : List Char) (exponent : Int) : Bool :=
  let digits := digits.dropWhile (· = '0')
  let magnitude := digits.length + exponent
  if digits.isEmpty || magnitude < 309 then false
  else if 309 < magnitude then true
  else if exponent < 0 then doubleBound * Nat.pow 10 exponent.natAbs ≤ Text.ofDigits digits
  else doubleBound ≤ Text.ofDigits digits * Nat.pow 10 exponent.toNat

/-- Takes a point and digits. -/
def fraction : Scanner (List Char) := do
  char '.'
  digits Text.isDigit

/-- Takes an exponent. -/
def exponent : Scanner Int := do
  let _ ← satisfying fun c => c == 'e' || c == 'E'
  let negative ← sign
  let n : Int := Text.ofDigits (← digits Text.isDigit)
  pure (if negative then -n else n)

/-- Takes a number with a point or an exponent.  A positive one must not round to infinity. -/
def finiteFloat : Scanner Unit := do
  let negative ← sign
  let whole ← wholeDigits
  let fractionDigits ← optional fraction
  let power ← match fractionDigits with
    | some _ => optional exponent
    | none => some <$> exponent
  let fractionDigits := fractionDigits.getD []
  if !negative && roundsToInfinity (whole ++ fractionDigits)
      (power.getD 0 - fractionDigits.length) then
    failure

/-- Takes a word for infinity or for no number. -/
def wordFloat : Scanner Unit := do
  let _ ← sign
  word ['i', 'n', 'f'] <|> word ['n', 'a', 'n']

/-- Takes a number other than a whole one. -/
def float : Scanner String :=
  String.ofList <$> spelling (finiteFloat <|> wordFloat)

end TeamCalendar.Toml
