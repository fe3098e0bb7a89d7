import TeamCalendar.Text.Blank
import TeamCalendar.Text.Hex

/-!
# Identifiers

Events, teams and users are named by 128-bit numbers.  An identifier has one written form, 32 lower
case hexadecimal digits in groups of 8, 4, 4, 4 and 12 with hyphens between them, and four forms in
which it is read: the digits alone, the groups with hyphens, the latter in braces, and the latter
after `urn:uuid:`.  Letters may be of either case in all of them.  Identifiers are ordered as
numbers.

* `Id.parse?` reads a text as it stands, `Id.parseTrimmed?` the text without blanks around it.
* `Id.random` marks a number as a randomly chosen identifier, and `IdSource` hands such
  identifiers out.
-/

namespace TeamCalendar

/-- What an identifier names. -/
inductive IdKind where
  | event
  | team
  | user

/-- An identifier of something of a kind. -/
structure Id (kind : IdKind) where
  /-- The number. -/
  bits : BitVec 128
  deriving DecidableEq

/-- The identifier of an event. -/
abbrev EventId := Id .event

/-- The identifier of a team. -/
abbrev TeamId := Id .team

/-- The identifier of a user. -/
abbrev UserId := Id .user

namespace Id

variable {kind : IdKind}

instance : Ord (Id kind) where
  compare a b := compare a.bits b.bits

theorem compare_eq (a b : Id kind) : compare a b = compare a.bits b.bits :=
  rfl

instance : Std.TransOrd (Id kind) where
  eq_swap {a b} := by
    rw [compare_eq, compare_eq]
    exact Std.OrientedOrd.eq_swap
  isLE_trans {a b c} := by
    rw [compare_eq, compare_eq, compare_eq]
    exact Std.TransOrd.isLE_trans

instance : Std.LawfulEqOrd (Id kind) where
  compare_self {a} := by
    rw [compare_eq]
    exact Std.ReflOrd.compare_self
  eq_of_compare {a b} h := by
    rw [compare_eq] at h
    cases a
    cases b
    congr
    exact Std.LawfulEqOrd.eq_of_compare h

/-- The identifier that names nothing. -/
def nil : Id kind :=
  ⟨0⟩

/-- Whether the identifier is the one that names nothing. -/
def isNil (id : Id kind) : Bool :=
  id.bits == 0

/-- The lengths of the groups of digits between the hyphens. -/
def groups : List Nat :=
  [8, 4, 4, 4, 12]

/-- Puts hyphens between groups of the given lengths. -/
def hyphenate : List Nat → List Char → List Char
  | [], cs => cs
  | [_], cs => cs
  | n :: ns, cs => cs.take n ++ '-' :: hyphenate ns (cs.drop n)

/-- Takes away the hyphens between groups of the given lengths, which have to fill the text. -/
def unhyphenate? : List Nat → List Char → Option (List Char)
  | [], cs => if cs.isEmpty then some [] else none
  | [n], cs => if cs.length = n then some cs else none
  | n :: ns, cs =>
    match cs.drop n with
    | '-' :: rest => (unhyphenate? ns rest).map (cs.take n ++ ·)
    | _ => none

/-- The 32 digits of an identifier. -/
def digits (id : Id kind) : List Char :=
  Text.hexDigits 32 id.bits.toNat

/-- The written form, as characters. -/
def textChars (id : Id kind) : List Char :=
  hyphenate groups id.digits

/-- The written form. -/
def text (id : Id kind) : String :=
  String.ofList id.textChars

instance : ToString (Id kind) where
  toString := text

/-- Reads 32 digits. -/
def ofDigits? (cs : List Char) : Option (Id kind) :=
  if cs.length = 32 then (Text.ofHexDigits? cs).map fun n => ⟨BitVec.ofNat 128 n⟩ else none

/-- Reads digits in groups with hyphens between them. -/
def ofHyphenated? (cs : List Char) : Option (Id kind) :=
  (unhyphenate? groups cs).bind ofDigits?

/-- What stands before an identifier that is written as a name in a scheme. -/
def scheme : List Char :=
  ['u', 'r', 'n', ':', 'u', 'u', 'i', 'd', ':']

/-- Reads an identifier from all the given characters, in any of its four forms. -/
def ofChars? (cs : List Char) : Option (Id kind) :=
  match cs with
  | '{' :: rest => if rest.getLast? = some '}' then ofHyphenated? rest.dropLast else none
  | _ =>
    if (cs.take scheme.length).map Char.toLower = scheme then
      ofHyphenated? (cs.drop scheme.length)
    else
      (ofDigits? cs).or (ofHyphenated? cs)

/-- Reads an identifier from a text as it stands. -/
def parse? (s : String) : Option (Id kind) :=
  ofChars? s.toList

/-- Reads an identifier from a text without the blanks around it. -/
def parseTrimmed? (s : String) : Option (Id kind) :=
  ofChars? (Text.trimChars s.toList)

/-- Marks a number as a random identifier: the seventh byte starts with the digit 4 and the ninth
with the bits 10. -/
def random (bits : BitVec 128) : Id kind :=
  ⟨(bits &&& ~~~((0xF : BitVec 128) <<< 76 ||| (0x3 : BitVec 128) <<< 62)) |||
    (0x4 : BitVec 128) <<< 76 ||| (0x2 : BitVec 128) <<< 62⟩

end Id

/-- A supply of random identifiers: the numbers that are to come first, and the number that follows
them. -/
structure IdSource where
  /-- The numbers that come first. -/
  given : List (BitVec 128) := []
  /-- The number that comes after them. -/
  next : Nat := 1

namespace IdSource

/-- The next identifier, and the supply without it. -/
def draw {kind : IdKind} (source : IdSource) : Id kind × IdSource :=
  match source.given with
  | bits :: rest => (Id.random bits, { source with given := rest })
  | [] => (Id.random (BitVec.ofNat 128 source.next), { source with next := source.next + 1 })

/-- The next `count` identifiers. -/
def drawMany {kind : IdKind} (source : IdSource) : Nat → List (Id kind)
  | 0 => []
  | count + 1 =>
    let (id, rest) := source.draw
    id :: rest.drawMany count

end IdSource

end TeamCalendar
