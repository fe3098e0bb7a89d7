import TeamCalendar.Toml.Moment
import TeamCalendar.Toml.Numeral
import TeamCalendar.Toml.Quoted
import TeamCalendar.Toml.Table

/-!
# Documents

A document is a sequence of statements, each on a line of its own: a key with its value, the header
of a table, or the header of one more table of a series.  A key with its value belongs to the table
of the last header before it.

* `parse?` reads a document as its outermost table.
-/

namespace TeamCalendar.Toml

open Scanner

/-- No key names as many tables, and no value is nested as deep. -/
def depthLimit : Nat :=
  80

/-- Whether a character may stand in a key without quotes. -/
def isKeyChar (c : Char) : Bool :=
  c.isAlphanum || c == '_' || c == '-'

/-- Takes one part of a key. -/
def keyPart : Scanner String := do
  match ← ahead with
  | some '"' | some '\'' => quotedLine
  | _ =>
    let cs ← run isKeyChar
    if cs.isEmpty then failure else pure (String.ofList cs)

/-- Takes a key of one or more parts with points between them. -/
def key : Scanner (List String) := do
  let parts ← repeated
    (fun parts => do
      skipBlanks
      let part ← keyPart
      skipBlanks
      if (← ahead) = some '.' then
        char '.'
        pure (.again (part :: parts))
      else
        pure (.done (part :: parts).reverse))
    []
  if parts.length < depthLimit then pure parts else failure

/-- Takes a value that is neither a list nor a table. -/
def scalar : Scanner Value := do
  match ← ahead with
  | some '"' | some '\'' => .text <$> quoted
  | some 't' => do
    word ['t', 'r', 'u', 'e']
    pure (.boolean true)
  | some 'f' => do
    word ['f', 'a', 'l', 's', 'e']
    pure (.boolean false)
  | _ => .moment <$> moment <|> .float <$> float <|> .integer <$> integer

/-- Takes the items of a list after its opening bracket, with its closing bracket. -/
def items (item : Scanner Value) : Scanner (List Value) :=
  repeated
    (fun items => do
      skipLines
      if (← ahead) = some ']' then
        char ']'
        pure (.done items.reverse)
      else
        let value ← item
        skipLines
        if (← ahead) = some ',' then
          char ','
          pure (.again (value :: items))
        else
          char ']'
          pure (.done (value :: items).reverse))
    []

/-- Takes a key, an equals sign and a value. -/
def assignment (value : Scanner Value) : Scanner (List String × Value) := do
  let path ← key
  char '='
  skipBlanks
  pure (path, ← value)

/-- Takes the entries of a table after its opening brace, with its closing brace. -/
def entries (value : Scanner Value) : Scanner Table := do
  skipBlanks
  if (← ahead) = some '}' then
    char '}'
    pure []
  else
    repeated
      (fun table => do
        let (path, value) ← assignment value
        let table ← StateT.lift (Table.define value path table)
        skipBlanks
        if (← ahead) = some ',' then
          char ','
          pure (.again table)
        else
          char '}'
          pure (.done table))
      []

/-- Takes a value with lists and tables nested at most `depth` deep. -/
def value : Nat → Scanner Value
  | 0 => scalar
  | depth + 1 => do
    match ← ahead with
    | some '[' =>
      char '['
      .list <$> items (value depth)
    | some '{' =>
      char '{'
      .table .inline <$> entries (value depth)
    | _ => scalar

/-- A document as far as it has been read. -/
structure Progress where
  /-- The outermost table. -/
  root : Table := []
  /-- The key of the last header; it is empty before the first one. -/
  header : List String := []

/-- Carries out a header. -/
def header (change : List String → String → Table → Option Table) (path : List String)
    (progress : Progress) : Option Progress := do
  let key ← path.getLast?
  let root ← change path.dropLast key progress.root
  pure { root, header := path }

/-- Takes the header of a table or of one more table of a series, and carries it out. -/
def headerStatement (progress : Progress) : Scanner Progress := do
  char '['
  if (← ahead) = some '[' then
    char '['
    let path ← key
    word [']', ']']
    lineRest
    StateT.lift (header Table.openSeries path progress)
  else
    let path ← key
    char ']'
    lineRest
    StateT.lift (header Table.openTable path progress)

/-- Takes a key with its value and adds it to the table of the last header. -/
def assignmentStatement (progress : Progress) : Scanner Progress := do
  let (path, value) ← assignment (value (depthLimit - 1))
  lineRest
  let root ← StateT.lift (progress.root.within (Table.define value path) progress.header)
  pure { progress with root }

/-- Takes a line. -/
def line (progress : Progress) : Scanner (Turn Progress Table) := do
  skipBlanks
  match ← ahead with
  | none => pure (.done progress.root)
  | some '#' | some '\n' | some '\r' =>
    lineRest
    pure (.again progress)
  | some '[' => .again <$> headerStatement progress
  | some _ => .again <$> assignmentStatement progress

/-- The character that may mark the beginning of a text. -/
def byteOrderMark : Char :=
  '\uFEFF'

/-- Reads a document as its outermost table. -/
def parse? (s : String) : Option Table :=
  let cs := match s.toList with
    | c :: rest => if c = byteOrderMark then rest else c :: rest
    | [] => []
  (repeated line {} cs).map Prod.fst

end TeamCalendar.Toml
