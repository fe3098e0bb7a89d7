/-!
# Scanning

A scanner takes characters from the front of a text and returns a value and the characters that it
left, or fails.

* `Scanner.repeated` repeats a step that takes at least one character each time; the characters that
  are there when it starts bound the number of repetitions.
* `skipBlanks` stays on the line, `skipLines` goes on over comments and ends of lines.
-/

namespace TeamCalendar.Toml

/-- A scanner of values. -/
abbrev Scanner (α : Type) :=
  StateT (List Char) Option α

/-- What a repeated step comes to. -/
inductive Turn (σ α : Type) where
  /-- There is more to do. -/
  | again (state : σ)
  /-- This was the last step. -/
  | done (value : α)

/-- Whether a character is a blank within a line. -/
def isBlank (c : Char) : Bool :=
  c == ' ' || c == '\t'

/-- Whether a character may stand in a comment and, apart from its delimiters, in a text. -/
def isPlain (c : Char) : Bool :=
  c == '\t' || (0x20 ≤ c.toNat && c.toNat != 0x7F)

namespace Scanner

variable {α σ : Type}

/-- The next character, which is left in place. -/
def ahead : Scanner (Option Char) :=
  fun cs => some (cs.head?, cs)

/-- Takes a given character. -/
def char (c : Char) : Scanner Unit :=
  fun
  | [] => none
  | d :: rest => if d = c then some ((), rest) else none

/-- Takes a character with a property. -/
def satisfying (p : Char → Bool) : Scanner Char :=
  fun
  | [] => none
  | c :: rest => if p c then some (c, rest) else none

/-- Takes given characters. -/
def word : List Char → Scanner Unit
  | [] => pure ()
  | c :: cs => do
    char c
    word cs

/-- Takes the characters at the front that have a property. -/
def run (p : Char → Bool) : Scanner (List Char) :=
  fun cs => some (cs.takeWhile p, cs.dropWhile p)

/-- Steps over the characters at the front that have a property. -/
def skip (p : Char → Bool) : Scanner Unit :=
  fun cs => some ((), cs.dropWhile p)

/-- The characters that a scanner takes. -/
def spelling (scanner : Scanner α) : Scanner (List Char) :=
  fun cs => (scanner cs).map fun (_, rest) => (cs.take (cs.length - rest.length), rest)

/-- Repeats a step, at most as often as there are characters in `bound`. -/
def repeatedWithin (step : σ → Scanner (Turn σ α)) : List Char → σ → Scanner α
  | [], _ => failure
  | _ :: bound, state => do
    match ← step state with
    | .again state => repeatedWithin step bound state
    | .done value => pure value

/-- Repeats a step that takes a character each time until it is done. -/
def repeated (step : σ → Scanner (Turn σ α)) (state : σ) : Scanner α :=
  fun cs => repeatedWithin step (' ' :: cs) state cs

end Scanner

open Scanner

/-- Steps over blanks. -/
def skipBlanks : Scanner Unit :=
  skip isBlank

/-- Takes the end of a line, which is a line feed, maybe after a carriage return. -/
def newline : Scanner Unit :=
  fun
  | '\n' :: rest => some ((), rest)
  | '\r' :: '\n' :: rest => some ((), rest)
  | _ => none

/-- Takes a comment. -/
def comment : Scanner Unit := do
  char '#'
  skip isPlain

/-- Takes the end of a line or finds the end of the text. -/
def lineEnd : Scanner Unit := do
  match ← ahead with
  | none => pure ()
  | some _ => newline

/-- Takes what may stand after a statement on its line. -/
def lineRest : Scanner Unit := do
  skipBlanks
  if (← ahead) = some '#' then
    comment
  lineEnd

/-- Steps over blanks, comments and ends of lines. -/
def skipLines : Scanner Unit :=
  repeated
    (fun () => do
      skipBlanks
      match ← ahead with
      | some '#' =>
        comment
        newline
        pure (.again ())
      | some '\n' | some '\r' =>
        newline
        pure (.again ())
      | _ => pure (.done ()))
    ()

end TeamCalendar.Toml
