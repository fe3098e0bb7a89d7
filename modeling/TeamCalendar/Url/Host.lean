import TeamCalendar.Address
import TeamCalendar.Text.Percent
import TeamCalendar.Url.Domain

/-!
# Hosts

A host is named by a domain, by a number or by an address in brackets.  Where a scheme gives hosts no
meaning, a host is any text without delimiters.
-/

namespace TeamCalendar.Url

/-- A host. -/
inductive Host where
  /-- A domain, by its labels. -/
  | domain (labels : List (List Char))
  /-- An address of 32 bits. -/
  | number (value : Nat)
  /-- An address in brackets. -/
  | bracketed (address : List Char)
  /-- A text without a meaning. -/
  | plain (text : List Char)
  deriving DecidableEq

namespace Host

/-- Reads a number: after `0x` it is hexadecimal, after another `0` octal, else decimal. -/
def numeral? (cs : List Char) : Option Nat :=
  match cs with
  | [] => none
  | '0' :: 'x' :: digits => ofDigits? 16 digits
  | '0' :: d :: digits => ofDigits? 8 (d :: digits)
  | digits => ofDigits? 10 digits
where
  /-- The number that digits to a base form. -/
  ofDigits? (base : Nat) (digits : List Char) : Option Nat :=
    digits.foldlM (fun sum c => do
      let digit ← Text.hexValue? c
      if digit < base then some (base * sum + digit) else none) 0

/-- The value of an address that has up to four numbers; the last one stands for all bytes that are
left, each other one for one byte. -/
def numberOfParts? (parts : List Nat) : Option Nat :=
  match parts.reverse with
  | [] => none
  | last :: front =>
    if 3 < front.length || front.any (255 < ·) || Nat.pow 256 (4 - front.length) ≤ last then none
    else some (parts.dropLast.foldl (fun sum part => 256 * sum + part) 0 *
      Nat.pow 256 (4 - front.length) + last)

/-- Whether a label says that the domain is a number. -/
def isNumeric (label : List Char) : Bool :=
  !label.isEmpty && label.all Text.isDigit || (numeral? label).isSome

/-- The host that labels name.  A point at the end does not count for a number. -/
def ofLabels? (labels : List (List Char)) : Option Host :=
  let parts := if labels.getLast? = some [] then labels.dropLast else labels
  if parts.getLast?.any isNumeric then
    ((parts.mapM numeral?).bind numberOfParts?).map number
  else some (domain labels)

/-- Reads an address in brackets. -/
def bracketed? (cs : List Char) : Option Host :=
  match cs.getLast? with
  | some ']' => if Address.hextets cs.dropLast = some [] then some (bracketed cs.dropLast) else none
  | _ => none

/-- Reads a host to which its scheme gives a meaning. -/
def ofChars? (cs : List Char) : Option Host :=
  match cs with
  | '[' :: rest => bracketed? rest
  | cs => do
    let text ← Text.percentDecode? (String.ofList cs)
    (Domain.parse? text.toList).bind ofLabels?

/-- Whether a character may stand in a host without a meaning. -/
def isPlainChar (c : Char) : Bool :=
  !(c == '\x00' || c == ' ' || "#/:<>?@[\\]^|".toList.contains c)

/-- Reads a host to which its scheme gives no meaning. -/
def plain? (cs : List Char) : Option Host :=
  match cs with
  | '[' :: rest => bracketed? rest
  | cs => if cs.all isPlainChar then some (plain cs) else none

end Host

end TeamCalendar.Url
