import TeamCalendar.Json.Numeral
import TeamCalendar.Json.Quoted

/-!
# Values that are not kept

A value that nobody asked for is skipped, however deeply it is nested: the lists and objects that
are still open are kept on a stack.  A value that is read only to find out whether it is a text may be
nested to a bounded depth.  `refuse` reads as much of a value as is needed to say that it is not of
the shape that was asked for.
-/

namespace TeamCalendar.Json

open Reader

/-- The letters of the null value. -/
def nullWord : List UInt8 :=
  [0x6e, 0x75, 0x6c, 0x6c]

/-- The letters of a true value. -/
def trueWord : List UInt8 :=
  [0x74, 0x72, 0x75, 0x65]

/-- The letters of a false value. -/
def falseWord : List UInt8 :=
  [0x66, 0x61, 0x6c, 0x73, 0x65]

/-- What a value starts with. -/
inductive Start where
  /-- A word with the given letters. -/
  | word (letters : List UInt8)
  /-- A numeral. -/
  | numeral
  /-- A quotation mark. -/
  | text
  /-- An opening bracket. -/
  | list
  /-- An opening brace. -/
  | object

/-- What a value that starts with the given byte is. -/
def Start.of? (b : UInt8) : Option Start :=
  if b = quotationMark then some .text
  else if b = openBrace then some .object
  else if b = openBracket then some .list
  else if b = minusSign ∨ isDigitByte b then some .numeral
  else ([nullWord, trueWord, falseWord].find? (·.head? = some b)).map .word

/-- Tells what the next value starts with, after blanks. -/
def peekStart : Reader Start := do
  match ← peek with
  | none => fail .ended
  | some b =>
    match Start.of? b with
    | some start => pure start
    | none => fail .malformed

/-- Finds the next value to be of the wrong shape.  A word, a numeral or a text has to be well formed
for that; of a list or an object the beginning is enough. -/
def refuse {α : Type} : Reader α := do
  match ← peekStart with
  | .word letters => expect letters
  | .numeral => let _ ← readNumeral
  | .text => let _ ← readKey
  | .list | .object => pure ()
  fail .mismatched

/-- A list or an object that has been opened. -/
inductive Frame where
  /-- A list. -/
  | list
  /-- An object. -/
  | object

/-- The byte that closes a list or an object. -/
def Frame.close : Frame → UInt8
  | .list => closeBracket
  | .object => closeBrace

/-- Steps over what comes before a value within a list or an object: in an object a key and a
colon. -/
def Frame.skipKey : Frame → Reader Unit
  | .list => pure ()
  | .object => do
    match ← peek with
    | none => fail .ended
    | some quotationMark =>
      advance
      skipQuoted
      readColon
    | some _ => fail .malformed

/-- Where skipping has got to. -/
inductive Skipping where
  /-- A value comes next, within the given lists and objects. -/
  | value (stack : List Frame)
  /-- A value has ended within a frame, which is within others. -/
  | after (frame : Frame) (stack : List Frame)

/-- What follows when a value has ended within the given lists and objects. -/
def Skipping.close : List Frame → Progress Skipping Unit
  | [] => .done ()
  | frame :: stack => .again (.after frame stack)

/-- Opens a list or an object, which may be empty. -/
def Skipping.openFrame (frame : Frame) (stack : List Frame) : Reader (Progress Skipping Unit) := do
  advance
  match ← peek with
  | none => fail .ended
  | some b =>
    if b = frame.close then
      advance
      pure (close stack)
    else
      frame.skipKey
      pure (.again (.value (frame :: stack)))

/-- One step of skipping. -/
def Skipping.step : Skipping → Reader (Progress Skipping Unit)
  | .value stack => do
    match ← peekStart with
    | .word letters =>
      expect letters
      pure (close stack)
    | .numeral =>
      skipNumeral
      pure (close stack)
    | .text =>
      advance
      skipQuoted
      pure (close stack)
    | .list => openFrame .list stack
    | .object => openFrame .object stack
  | .after frame stack => do
    match ← peek with
    | none => fail .ended
    | some b =>
      if b = comma then
        advance
        frame.skipKey
        pure (.again (.value (frame :: stack)))
      else if b = frame.close then
        advance
        pure (close stack)
      else
        fail .malformed

/-- Steps over a value. -/
def skipValue : Reader Unit :=
  repeated Skipping.step (.value [])

/-- Reads a value whose lists and objects are nested at most `depth` deep, and returns it if it is a
text. -/
def readWithin (depth : Nat) : Reader (Option String) := do
  match ← peekStart with
  | .word letters =>
    expect letters
    pure none
  | .numeral =>
    let _ ← readNumeral
    pure none
  | .text => some <$> readKey
  | .list =>
    match depth with
    | 0 => fail .malformed
    | depth + 1 =>
      advance
      let _ ← readList (readWithin depth)
      pure none
  | .object =>
    match depth with
    | 0 => fail .malformed
    | depth + 1 =>
      advance
      readObject (fun () => do
        let _ ← readKey
        readColon
        let _ ← readWithin depth
        pure ()) ()
      pure none

end TeamCalendar.Json
