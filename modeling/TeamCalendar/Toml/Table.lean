/-!
# Tables

A document is a table, and the values in a table may be tables again.  How a table was brought in
says how it may be added to.

* `Table.define` adds a value under a dotted key.
* `Table.openTable` and `Table.openSeries` carry out the two kinds of header.
* A key is never given a second value: each of the three fails instead.
-/

namespace TeamCalendar.Toml

/-- How a table was brought in. -/
inductive Origin where
  /-- It was written between braces and is complete. -/
  | inline
  /-- It has a header. -/
  | headed
  /-- A header of a deeper table passed through it. -/
  | implied
  /-- A dotted key passed through it. -/
  | dotted
  deriving DecidableEq

/-- A value. -/
inductive Value where
  /-- A text. -/
  | text (s : String)
  /-- A whole number. -/
  | integer (n : Int)
  /-- A number with a point or an exponent, as it is written. -/
  | float (spelling : String)
  /-- A truth value. -/
  | boolean (b : Bool)
  /-- A date or a time of day, as it is written. -/
  | moment (spelling : String)
  /-- A list of values. -/
  | list (items : List Value)
  /-- A table. -/
  | table (origin : Origin) (entries : List (String × Value))
  /-- Tables under the same repeated header; the last one is the one that can be added to. -/
  | series (earlier : List (List (String × Value))) (last : List (String × Value))

/-- Keys with their values, in the order in which they were brought in. -/
abbrev Table :=
  List (String × Value)

namespace Table

/-- Gives a key the value that is made of the one it has, if any. -/
def alter (key : String) (change : Option Value → Option Value) : Table → Option Table
  | [] => (change none).map fun value => [(key, value)]
  | (k, value) :: rest =>
    if k = key then
      (change (some value)).map fun value => (k, value) :: rest
    else
      (alter key change rest).map ((k, value) :: ·)

/-- Adds a value under a dotted key.  The innermost table that the key names has to be one that
only dotted keys pass through; the ones around it may be passed through by headers as well. -/
def define (value : Value) : List String → Table → Option Table
  | [], _ => none
  | [key], table =>
    table.alter key fun
      | none => some value
      | some _ => none
  | key :: inner :: path, table =>
    let deeper := define value (inner :: path)
    table.alter key fun
      | none => (deeper []).map (.table .dotted)
      | some (.table .dotted entries) => (deeper entries).map (.table .dotted)
      | some (.table .implied entries) =>
        if path.isEmpty then none else (deeper entries).map (.table .implied)
      | some (.series earlier last) =>
        if path.isEmpty then none else (deeper last).map (.series earlier)
      | some _ => none

/-- Changes the table that a header leads to.  Tables on the way that are not there are implied. -/
def within (change : Table → Option Table) : List String → Table → Option Table
  | [], table => change table
  | key :: path, table =>
    let deeper := within change path
    table.alter key fun
      | none => (deeper []).map (.table .implied)
      | some (.table .inline _) => none
      | some (.table origin entries) => (deeper entries).map (.table origin)
      | some (.series earlier last) => (deeper last).map (.series earlier)
      | some _ => none

/-- Carries out the header of a table, which may have been implied before. -/
def openTable (path : List String) (key : String) (root : Table) : Option Table :=
  root.within
    (fun table => table.alter key fun
      | none => some (.table .headed [])
      | some (.table .implied entries) => some (.table .headed entries)
      | some _ => none)
    path

/-- Carries out the header of one more table of a series. -/
def openSeries (path : List String) (key : String) (root : Table) : Option Table :=
  root.within
    (fun table => table.alter key fun
      | none => some (.series [] [])
      | some (.series earlier last) => some (.series (earlier ++ [last]) [])
      | some _ => none)
    path

end Table

end TeamCalendar.Toml
