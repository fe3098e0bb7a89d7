import TeamCalendar.Text.Utf8

/-!
# Reading JSON

A reader takes bytes from the front of a text and either returns a value and the bytes that it left,
or says what is wrong with the text.  A text is read from left to right, and the first fault decides.

* `Fault` tells three causes apart: the text ends too early, it is no JSON, or it is JSON of a shape
  that was not asked for.
* `Reader.repeated` repeats a step that consumes at least one byte each time; the bytes that are
  there when it starts bound the number of repetitions.
* `readList` and `readObject` read what stands between brackets and between braces.
-/

namespace TeamCalendar.Json

/-- What is wrong with a text. -/
inductive Fault where
  /-- The text ends too early. -/
  | ended
  /-- The text is no JSON. -/
  | malformed
  /-- The text is JSON as far as it was read, but of the wrong shape. -/
  | mismatched
  deriving DecidableEq

/-- A reader of values from the front of a text. -/
abbrev Reader (α : Type) :=
  StateT (List UInt8) (Except Fault) α

/-- The byte of `"`. -/
@[match_pattern]
abbrev quotationMark : UInt8 :=
  0x22

/-- The byte of a comma. -/
@[match_pattern]
abbrev comma : UInt8 :=
  0x2c

/-- The byte of a colon. -/
@[match_pattern]
abbrev colon : UInt8 :=
  0x3a

/-- The byte of a backslash. -/
@[match_pattern]
abbrev backslash : UInt8 :=
  0x5c

/-- The byte of an opening bracket. -/
@[match_pattern]
abbrev openBracket : UInt8 :=
  0x5b

/-- The byte of a closing bracket. -/
@[match_pattern]
abbrev closeBracket : UInt8 :=
  0x5d

/-- The byte of an opening brace. -/
@[match_pattern]
abbrev openBrace : UInt8 :=
  0x7b

/-- The byte of a closing brace. -/
@[match_pattern]
abbrev closeBrace : UInt8 :=
  0x7d

/-- Whether a byte is a blank that may stand between the parts of a text. -/
def isSpace (b : UInt8) : Bool :=
  b == 0x20 || b == 0x0a || b == 0x0d || b == 0x09

/-- What a repeated step comes to. -/
inductive Progress (σ α : Type) where
  /-- There is more to do. -/
  | again (state : σ)
  /-- This was the last step. -/
  | done (value : α)

namespace Reader

variable {α σ : Type}

/-- Finds fault with the text. -/
def fail (fault : Fault) : Reader α :=
  fun _ => .error fault

/-- The next byte, which is left in place. -/
def ahead : Reader (Option UInt8) :=
  fun bytes => .ok (bytes.head?, bytes)

/-- Steps over blanks and tells the next byte, which is left in place. -/
def peek : Reader (Option UInt8) :=
  fun bytes =>
    let rest := bytes.dropWhile isSpace
    .ok (rest.head?, rest)

/-- Steps over one byte. -/
def advance : Reader Unit :=
  fun bytes => .ok ((), bytes.tail)

/-- Takes the next byte. -/
def next : Reader UInt8 :=
  fun
  | [] => .error .ended
  | b :: rest => .ok (b, rest)

/-- Steps over the given bytes. -/
def expect : List UInt8 → Reader Unit
  | [] => pure ()
  | b :: bs => do
    if (← next) = b then expect bs else fail .malformed

/-- Repeats a step, at most as often as there are bytes in `bound`. -/
def repeatedWithin (step : σ → Reader (Progress σ α)) : List UInt8 → σ → Reader α
  | [], _ => fail .malformed
  | _ :: bound, state => do
    match ← step state with
    | .again state => repeatedWithin step bound state
    | .done value => pure value

/-- Repeats a step that consumes a byte each time until it is done. -/
def repeated (step : σ → Reader (Progress σ α)) (state : σ) : Reader α :=
  fun bytes => repeatedWithin step (0 :: bytes) state bytes

end Reader

open Reader

variable {α σ : Type}

/-- Steps over a colon and the blanks before it. -/
def readColon : Reader Unit := do
  match ← peek with
  | none => fail .ended
  | some colon => advance
  | some _ => fail .malformed

/-- Steps over a comma if the part that follows is not the first one; a part has to follow. -/
def readComma (first : Bool) (close : UInt8) : Reader Unit := do
  if first then
    pure ()
  else
    match ← peek with
    | some comma =>
      advance
      match ← peek with
      | none => fail .ended
      | some b => if b = close then fail .malformed else pure ()
    | _ => fail .malformed

/-- Reads the values of a list after its opening bracket, with its closing bracket. -/
def readList (item : Reader α) : Reader (List α) :=
  repeated
    (fun (first, items) => do
      match ← peek with
      | none => fail .ended
      | some closeBracket =>
        advance
        pure (.done items.reverse)
      | some _ =>
        readComma first closeBracket
        let value ← item
        pure (.again (false, value :: items)))
    (true, [])

/-- Reads the members of an object after its opening brace, with its closing brace.  The quotation
mark of a key is there when `member` starts, and `member` reads on to the end of the value. -/
def readObject (member : σ → Reader σ) (state : σ) : Reader σ :=
  repeated
    (fun (first, state) => do
      match ← peek with
      | none => fail .ended
      | some closeBrace =>
        advance
        pure (.done state)
      | some _ =>
        readComma first closeBrace
        match ← peek with
        | some quotationMark =>
          let state ← member state
          pure (.again (false, state))
        | _ => fail .malformed)
    (true, state)

/-- Reads a text to its end: after the value there may only be blanks. -/
def Reader.whole (reader : Reader α) (bytes : List UInt8) : Except Fault α := do
  let (value, rest) ← reader bytes
  if rest.all isSpace then pure value else .error .malformed

/-- Reads a value from the front of a text; what follows does not matter. -/
def Reader.front (reader : Reader α) (bytes : List UInt8) : Except Fault α :=
  (reader bytes).map Prod.fst

end TeamCalendar.Json
