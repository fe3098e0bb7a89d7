import TeamCalendar.Text.Decimal
import TeamCalendar.Text.Hex

/-!
# Socket addresses

A socket address is an address of a host and, after a colon, the number of a service on it.  A host
has four numbers with points between them, or it stands in brackets and has eight groups of
hexadecimal digits with colons between them.  Of these a run of one or more groups may be left out
once, and the last two may be written as four numbers.  A scope may follow after a percent sign.

Each reader takes its part from the front of a text and returns what it left.
-/

namespace TeamCalendar.Address

/-- What is left of a text after its part. -/
abbrev Rest :=
  Option (List Char)

/-- Takes a given character. -/
def char (c : Char) : List Char → Rest
  | [] => none
  | d :: rest => if d = c then some rest else none

/-- Takes a number between 0 and 255 of at most three digits, the first of which is no needless
zero. -/
def octet (cs : List Char) : Rest :=
  let digits := cs.takeWhile Text.isDigit
  if digits = [] ∨ 3 < digits.length ∨ 255 < Text.ofDigits digits then none
  else if digits.head? = some '0' ∧ 1 < digits.length then none
  else some (cs.dropWhile Text.isDigit)

/-- Takes four numbers with points between them. -/
def octets (cs : List Char) : Rest := do
  let cs ← octet cs
  let cs ← (char '.' cs).bind octet
  let cs ← (char '.' cs).bind octet
  (char '.' cs).bind octet

/-- Whether a character is a hexadecimal digit. -/
def isHexDigit (c : Char) : Bool :=
  (Text.hexValue? c).isSome

/-- Takes one to four hexadecimal digits. -/
def group (cs : List Char) : Rest :=
  let digits := cs.takeWhile isHexDigit
  if digits = [] ∨ 4 < digits.length then none else some (cs.dropWhile isHexDigit)

/-- Groups that have been taken. -/
structure Groups where
  /-- How many there are. -/
  count : Nat
  /-- Whether the last two are written as four numbers. -/
  dotted : Bool
  /-- What is left of the text. -/
  rest : List Char

/-- Takes as many groups as there are, but no more than `limit`.  A colon stands before each of them
unless it is the `first`. -/
def groups (first : Bool) : Nat → List Char → Groups
  | 0, cs => { count := 0, dotted := false, rest := cs }
  | limit + 1, cs =>
    let start := if first then some cs else char ':' cs
    match if limit = 0 then none else start.bind octets with
    | some rest => { count := 2, dotted := true, rest }
    | none =>
      match start.bind group with
      | some rest =>
        let more := groups false limit rest
        { more with count := more.count + 1 }
      | none => { count := 0, dotted := false, rest := cs }

/-- Takes eight groups, of which some may be left out between two colons. -/
def hextets (cs : List Char) : Rest :=
  let head := groups true 8 cs
  if head.count = 8 then some head.rest
  else if head.dotted then none
  else do
    let cs ← (char ':' head.rest).bind (char ':')
    pure (groups true (7 - head.count) cs).rest

/-- Takes a number below a bound. -/
def number (bound : Nat) (cs : List Char) : Rest :=
  let digits := cs.takeWhile Text.isDigit
  if digits = [] ∨ bound ≤ Text.ofDigits digits then none else some (cs.dropWhile Text.isDigit)

/-- Takes a scope, if there is one. -/
def scope (cs : List Char) : List Char :=
  ((char '%' cs).bind (number 0x100000000)).getD cs

/-- Takes the host. -/
def host (cs : List Char) : Rest :=
  octets cs <|> do
    let cs ← (char '[' cs).bind hextets
    char ']' (scope cs)

/-- Whether a text is a socket address. -/
def isSocketAddress (s : String) : Bool :=
  ((host s.toList).bind (char ':')).bind (number 0x10000) = some []

end TeamCalendar.Address
