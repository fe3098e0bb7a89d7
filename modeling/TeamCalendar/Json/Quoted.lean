import TeamCalendar.Json.Reader
import TeamCalendar.Text.Hex

/-!
# Quoted texts

A text stands between quotation marks.  A backslash starts an escape; control characters have to be
escaped.  An escape with `u` and four hexadecimal digits stands for a UTF-16 unit; two such escapes
in a row that are a surrogate pair stand for one character.

A text that is read has to be UTF-8 once its escapes are resolved, with no surrogate left over.  Of a
text that is skipped only the escapes have to be well formed.
-/

namespace TeamCalendar.Json

open Reader

/-- The letters of the short escapes, each with the byte that it stands for. -/
def shortEscapes : List (UInt8 × UInt8) :=
  [(quotationMark, quotationMark), (backslash, backslash), (0x2f, 0x2f), (0x62, 0x08),
   (0x66, 0x0c), (0x6e, 0x0a), (0x72, 0x0d), (0x74, 0x09)]

/-- The letter of an escape with four digits. -/
abbrev unitEscape : UInt8 :=
  0x75

/-- Reads the four digits of a UTF-16 unit. -/
def readUnit : Reader Nat :=
  fun
  | a :: b :: c :: d :: rest =>
    match Text.ofHexDigits? ([a, b, c, d].map fun b => Char.ofNat b.toNat) with
    | some unit => .ok (unit, rest)
    | none => .error .malformed
  | _ => .error .ended

/-- Whether a UTF-16 unit is the first half of a pair. -/
def isLeading (unit : Nat) : Bool :=
  0xD800 ≤ unit && unit < 0xDC00

/-- Whether a UTF-16 unit is the second half of a pair. -/
def isTrailing (unit : Nat) : Bool :=
  0xDC00 ≤ unit && unit < 0xE000

/-- The code point of a pair. -/
def ofPair (leading trailing : Nat) : Nat :=
  0x10000 + 0x400 * (leading - 0xD800) + (trailing - 0xDC00)

/-- Steps over a byte that has to be there. -/
def require (b : UInt8) : Reader Unit := do
  if (← next) = b then pure () else fail .malformed

/-- Reads the digits of one character, which are those of two units if it is a pair. -/
def readCodePoint : Reader Nat := do
  let unit ← readUnit
  if isTrailing unit then
    fail .malformed
  else if isLeading unit then
    require backslash
    require unitEscape
    let trailing ← readUnit
    if isTrailing trailing then pure (ofPair unit trailing) else fail .malformed
  else
    pure unit

/-- Reads an escape after its backslash, as the bytes that it stands for. -/
def readEscape : Reader (List UInt8) := do
  let b ← next
  if b = unitEscape then
    let code ← readCodePoint
    pure (Text.bytesOf (String.singleton (Char.ofNat code)))
  else
    match shortEscapes.lookup b with
    | some b => pure [b]
    | none => fail .malformed

/-- Reads a text after its opening quotation mark, with the closing one, as bytes. -/
def readQuotedBytes : Reader (List UInt8) :=
  repeated
    (fun read => do
      let b ← next
      if b = quotationMark then
        pure (.done read.reverse)
      else if b = backslash then
        let bytes ← readEscape
        pure (.again (bytes.reverse ++ read))
      else if b < 0x20 then
        fail .malformed
      else
        pure (.again (b :: read)))
    []

/-- Reads a text after its opening quotation mark, with the closing one. -/
def readQuoted : Reader String := do
  match Text.ofBytes? (← readQuotedBytes) with
  | some s => pure s
  | none => fail .malformed

/-- Steps over an escape after its backslash. -/
def skipEscape : Reader Unit := do
  let b ← next
  if b = unitEscape then
    let _ ← readUnit
    pure ()
  else if (shortEscapes.lookup b).isSome then
    pure ()
  else
    fail .malformed

/-- Steps over a text after its opening quotation mark, and over the closing one. -/
def skipQuoted : Reader Unit :=
  repeated
    (fun () => do
      let b ← next
      if b = quotationMark then
        pure (.done ())
      else if b = backslash then
        skipEscape
        pure (.again ())
      else if b < 0x20 then
        fail .malformed
      else
        pure (.again ()))
    ()

/-- Reads a key with both its quotation marks. -/
def readKey : Reader String := do
  advance
  readQuoted

end TeamCalendar.Json
