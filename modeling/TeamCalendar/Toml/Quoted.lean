import TeamCalendar.Text.Hex
import TeamCalendar.Toml.Scanner

/-!
# Quoted texts

There are four kinds of quoted texts.  Between quotation marks a backslash starts an escape, between
apostrophes it is a character like others.  With one mark at either end a text stays on its line, with
three it may go over lines; a line feed stands for every end of a line in it, and the first one is
left out if it comes at once.

A text over lines may end in up to two marks of its own, which then stand before the three that close
it.
-/

namespace TeamCalendar.Toml

open Scanner

/-- The letters of the short escapes, each with the character that it stands for. -/
def shortEscapes : List (Char × Char) :=
  [('b', '\x08'), ('f', '\x0c'), ('n', '\n'), ('r', '\r'), ('t', '\t'), ('"', '"'), ('\\', '\\')]

/-- The character that hexadecimal digits name. -/
def namedChar? (digits : List Char) : Option Char := do
  let code ← Text.ofHexDigits? digits
  if code.isValidChar then some (Char.ofNat code) else none

/-- Splits off what follows a closing delimiter of three marks, along with up to two marks that
belong to the text. -/
def splitClose (mark : Char) : List Char → List Char × List Char
  | c :: rest =>
    if c ≠ mark then ([], c :: rest)
    else
      match rest with
      | d :: rest => if d = mark then ([mark, mark], rest) else ([mark], d :: rest)
      | [] => ([mark], [])
  | [] => ([], [])

/-- Reads a text with escapes after its opening mark, onto what was read of it. -/
def basicFrom (read : List Char) : List Char → Option (List Char × List Char)
  | '"' :: rest => some (read.reverse, rest)
  | '\\' :: 'u' :: a :: b :: c :: d :: rest =>
    match namedChar? [a, b, c, d] with
    | some named => basicFrom (named :: read) rest
    | none => none
  | '\\' :: 'U' :: a :: b :: c :: d :: e :: f :: g :: h :: rest =>
    match namedChar? [a, b, c, d, e, f, g, h] with
    | some named => basicFrom (named :: read) rest
    | none => none
  | '\\' :: letter :: rest =>
    match shortEscapes.lookup letter with
    | some c => basicFrom (c :: read) rest
    | none => none
  | c :: rest => if isPlain c && c != '\\' then basicFrom (c :: read) rest else none
  | [] => none

/-- Reads a text without escapes after its opening mark. -/
def literal : Scanner (List Char) := do
  let cs ← run fun c => isPlain c && c != '\''
  char '\''
  pure cs

/-- Whether the line ends here, blanks aside. -/
def endsLine (cs : List Char) : Bool :=
  match cs.dropWhile isBlank with
  | '\n' :: _ => true
  | '\r' :: '\n' :: _ => true
  | _ => false

/-- Reads a text with escapes that may go over lines, after the marks that open it, onto what was
read of it.  While `folding`, blanks and ends of lines are left out: so it is after a backslash that
ends a line. -/
def longBasicFrom (read : List Char) (folding : Bool) :
    List Char → Option (List Char × List Char)
  | '"' :: '"' :: '"' :: rest =>
    let (marks, rest) := splitClose '"' rest
    some (read.reverse ++ marks, rest)
  | '\n' :: rest => longBasicFrom (if folding then read else '\n' :: read) folding rest
  | '\r' :: '\n' :: rest => longBasicFrom (if folding then read else '\n' :: read) folding rest
  | '\\' :: rest =>
    if endsLine rest then longBasicFrom read true rest
    else
      match rest with
      | 'u' :: a :: b :: c :: d :: rest =>
        match namedChar? [a, b, c, d] with
        | some named => longBasicFrom (named :: read) false rest
        | none => none
      | 'U' :: a :: b :: c :: d :: e :: f :: g :: h :: rest =>
        match namedChar? [a, b, c, d, e, f, g, h] with
        | some named => longBasicFrom (named :: read) false rest
        | none => none
      | letter :: rest =>
        match shortEscapes.lookup letter with
        | some c => longBasicFrom (c :: read) false rest
        | none => none
      | [] => none
  | c :: rest =>
    if folding && isBlank c then longBasicFrom read true rest
    else if isPlain c then longBasicFrom (c :: read) false rest
    else none
  | [] => none

/-- Reads a text without escapes that may go over lines, after the marks that open it, onto what was
read of it. -/
def longLiteralFrom (read : List Char) : List Char → Option (List Char × List Char)
  | '\'' :: '\'' :: '\'' :: rest =>
    let (marks, rest) := splitClose '\'' rest
    some (read.reverse ++ marks, rest)
  | '\n' :: rest => longLiteralFrom ('\n' :: read) rest
  | '\r' :: '\n' :: rest => longLiteralFrom ('\n' :: read) rest
  | c :: rest => if isPlain c then longLiteralFrom (c :: read) rest else none
  | [] => none

/-- Leaves out the end of a line at the front. -/
def dropNewline (cs : List Char) : List Char :=
  match newline cs with
  | some ((), rest) => rest
  | none => cs

/-- Reads a text of one of the two kinds that stay on their line. -/
def quotedLine : Scanner String :=
  fun
  | '"' :: rest => (basicFrom [] rest).map fun (cs, rest) => (String.ofList cs, rest)
  | '\'' :: rest => (literal rest).map fun (cs, rest) => (String.ofList cs, rest)
  | _ => none

/-- Reads a text of any of the four kinds. -/
def quoted : Scanner String :=
  fun
  | '"' :: '"' :: '"' :: rest =>
    (longBasicFrom [] false (dropNewline rest)).map fun (cs, rest) => (String.ofList cs, rest)
  | '\'' :: '\'' :: '\'' :: rest =>
    (longLiteralFrom [] (dropNewline rest)).map fun (cs, rest) => (String.ofList cs, rest)
  | cs => quotedLine cs

end TeamCalendar.Toml
