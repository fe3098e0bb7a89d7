import TeamCalendar.Json.Skip
import TeamCalendar.Json.Value

/-!
# JSON forms

A codec says how the values of a type are written as JSON and how they are read back.  What is
written is one form of a value; what is read may be looser.
-/

namespace TeamCalendar.Json

open Reader

/-- How the values of a type are read and written. -/
structure Codec (α : Type) where
  /-- Reads a value. -/
  read : Reader α
  /-- The JSON form of a value. -/
  write : α → Json

namespace Codec

variable {α : Type}

/-- The compact text of a value. -/
def encode (codec : Codec α) (value : α) : String :=
  (codec.write value).toText

/-- Reads a value from a whole text. -/
def decode (codec : Codec α) (bytes : List UInt8) : Except Fault α :=
  codec.read.whole bytes

/-- Reads a value from the front of a text. -/
def decodeFront (codec : Codec α) (bytes : List UInt8) : Except Fault α :=
  codec.read.front bytes

/-- Reads a text. -/
def readText : Reader String := do
  match ← peekStart with
  | .text => readKey
  | _ => refuse

/-- Texts. -/
def text : Codec String where
  read := readText
  write := .text

/-- Values that have a text of their own. -/
def parsed (parse? : String → Option α) (print : α → String) : Codec α where
  read := do
    match parse? (← readText) with
    | some value => pure value
    | none => fail .mismatched
  write value := .text (print value)

/-- Looks up the value that a word stands for. -/
def ofWord (words : List (String × α)) (word : String) : Reader α :=
  match words.lookup word with
  | some value => pure value
  | none => fail .mismatched

/-- Steps over a null value. -/
def readNull : Reader Unit := do
  match ← peek with
  | some 0x6e => expect nullWord
  | _ => refuse

/-- Steps over a closing brace. -/
def readCloseBrace : Reader Unit := do
  match ← peek with
  | none => fail .ended
  | some closeBrace => advance
  | some _ => fail .malformed

/-- Values that are words.  A word may also be read as the only key of an object with the value
null. -/
def oneOf (words : List (String × α)) (word : α → String) : Codec α where
  read := do
    match ← peek with
    | none => fail .ended
    | some quotationMark => ofWord words (← readKey)
    | some openBrace =>
      advance
      let value ← ofWord words (← readText)
      readColon
      readNull
      readCloseBrace
      pure value
    | some _ => fail .malformed
  write value := .text (word value)

/-- Values that may be null. -/
def nullable (codec : Codec α) : Codec (Option α) where
  read := do
    match ← peek with
    | some 0x6e =>
      expect nullWord
      pure none
    | _ => some <$> codec.read
  write
    | none => .null
    | some value => codec.write value

/-- Lists of values. -/
def list (codec : Codec α) : Codec (List α) where
  read := do
    match ← peekStart with
    | .list =>
      advance
      readList codec.read
    | _ => refuse
  write values := .list (values.map codec.write)

/-- Objects with any keys, as pairs in order; a key may be repeated. -/
def dictionary (codec : Codec α) : Codec (List (String × α)) where
  read := do
    match ← peekStart with
    | .object =>
      advance
      List.reverse <$> readObject (fun entries => do
        let key ← readKey
        readColon
        let value ← codec.read
        pure ((key, value) :: entries)) []
    | _ => refuse
  write entries := .object (entries.map fun (key, value) => (key, codec.write value))

/-- Whole numbers that fit in a number of bits. -/
def unsigned (bits : Nat) : Codec Nat where
  read := do
    match ← peekStart with
    | .numeral =>
      match ← readNumeral with
      | some value =>
        if 0 ≤ value ∧ value < Nat.pow 2 bits then pure value.toNat else fail .mismatched
      | none => fail .mismatched
    | _ => refuse
  write value := .number value

end Codec

end TeamCalendar.Json
