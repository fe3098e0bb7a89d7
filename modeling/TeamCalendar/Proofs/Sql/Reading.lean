import TeamCalendar.Proofs.Text.Digits
import TeamCalendar.Sql.Statement

/-!
# What statements say

A statement is written for a database to read.  Here its text is read: first the pieces of which it
is made up, then what they say.  The places in a text stand for the parameters with their numbers,
of which the first one is 1.

* `Token.scan` finds the pieces of a text, and `Token.scan_append_cons` takes a text apart.
* `Insertion.ofTokens?` reads which rows a text inserts, and `Statement.inserted?` gives these rows
  with their values by column.
-/

namespace TeamCalendar.Sql

/-- A piece of the text of a statement. -/
inductive Token where
  /-- A keyword or a name. -/
  | word (s : String)
  /-- The place of the parameter with a number. -/
  | place (number : Nat)
  | mark (c : Char)
  deriving DecidableEq

namespace Token

/-- Whether a character belongs to words. -/
def isWordChar (c : Char) : Bool :=
  c.isAlphanum || c == '_'

/-- The piece that begins with a character, unless this is a blank between pieces. -/
def start? (c : Char) : Option Token :=
  if c = '$' then some (.place 0)
  else if isWordChar c then some (.word (String.singleton c))
  else if Text.isBlank c then none
  else some (.mark c)

/-- The piece with one more character, if it goes on with it. -/
def extend? : Token → Char → Option Token
  | .word s, c => if isWordChar c then some (.word (s.push c)) else none
  | .place number, c => (Text.digitValue? c).map fun d => .place (10 * number + d)
  | .mark _, _ => none

/-- The pieces of a text, of which the first one may have begun before. -/
def scan : Option Token → List Char → List Token
  | begun, [] => begun.toList
  | begun, c :: cs =>
    match begun.bind (·.extend? c) with
    | some token => scan (some token) cs
    | none => begun.toList ++ scan (start? c) cs

/-- Whether a character ends every piece before it. -/
def isBreak (c : Char) : Bool :=
  !isWordChar c && !Text.isDigit c

theorem extend?_of_isBreak {c : Char} (hc : isBreak c = true) (token : Token) :
    token.extend? c = none := by
  rw [isBreak, Bool.and_eq_true, Bool.not_eq_true', Bool.not_eq_true'] at hc
  obtain ⟨hword, hdigit⟩ := hc
  cases token with
  | word s => rw [extend?, hword, if_neg Bool.false_ne_true]
  | place number =>
    have hrange : ¬('0' ≤ c ∧ c ≤ '9') := by simpa [Text.isDigit] using hdigit
    rw [extend?, Text.digitValue?, if_neg hrange, Option.map_none]
  | mark d => rfl

theorem scan_cons_of_none {begun : Option Token} {c : Char} {cs : List Char}
    (h : begun.bind (·.extend? c) = none) :
    scan begun (c :: cs) = begun.toList ++ scan (start? c) cs := by
  rw [scan, h]

theorem scan_cons_of_some {begun : Option Token} {token : Token} {c : Char} {cs : List Char}
    (h : begun.bind (·.extend? c) = some token) :
    scan begun (c :: cs) = scan (some token) cs := by
  rw [scan, h]

/-- A character that ends every piece takes a text apart. -/
theorem scan_append_cons {c : Char} (hc : isBreak c = true) (begun : Option Token)
    (cs rest : List Char) :
    scan begun (cs ++ c :: rest) = scan begun cs ++ scan (start? c) rest := by
  induction cs generalizing begun with
  | nil =>
    have hnone : begun.bind (·.extend? c) = none := by
      cases begun with
      | none => rfl
      | some token => exact extend?_of_isBreak hc token
    exact scan_cons_of_none hnone
  | cons d cs ih =>
    rw [List.cons_append]
    cases hnext : begun.bind (·.extend? d) with
    | some token => rw [scan_cons_of_some hnext, scan_cons_of_some hnext, ih]
    | none => rw [scan_cons_of_none hnext, scan_cons_of_none hnext, ih, List.append_assoc]

/-- A mark is a piece of its own. -/
theorem scan_mark (c : Char) (cs : List Char) :
    scan (some (.mark c)) cs = .mark c :: scan none cs := by
  cases cs with
  | nil => rfl
  | cons d cs => rfl

theorem scan_digits {digits : List Char} (h : ∀ c ∈ digits, Text.isDigit c = true) (number : Nat) :
    scan (some (.place number)) digits =
      [.place (digits.foldl (fun n c => 10 * n + (Text.digitValue? c).getD 0) number)] := by
  induction digits generalizing number with
  | nil => rfl
  | cons c digits ih =>
    rw [List.forall_mem_cons] at h
    have hrange : '0' ≤ c ∧ c ≤ '9' := by simpa [Text.isDigit] using h.1
    have hvalue : Text.digitValue? c = some (c.toNat - 0x30) := if_pos hrange
    have hnext : (some (Token.place number)).bind (·.extend? c) =
        some (.place (10 * number + (c.toNat - 0x30))) := by
      rw [Option.bind_some, extend?, hvalue, Option.map_some]
    rw [scan_cons_of_some hnext, ih h.2, List.foldl_cons, hvalue, Option.getD_some]

/-- The place of a parameter is read back. -/
theorem scan_place (number : Nat) :
    scan none ('$' :: Nat.toDigits 10 number) = [.place number] := by
  have hdigits : ∀ c ∈ Nat.toDigits 10 number, Text.isDigit c = true := fun c hc =>
    Text.isDigit_of_isDigit (Nat.isDigit_of_mem_toDigits (by decide) (by decide) hc)
  have hread : scan none ('$' :: Nat.toDigits 10 number) =
      scan (some (.place 0)) (Nat.toDigits 10 number) := rfl
  rw [hread, scan_digits hdigits]
  exact congrArg (fun n => [Token.place n]) (Text.ofDigits_toDigits number)

/-- The pieces of a list are those of its items, with a comma between every two of them. -/
theorem scan_intercalate (items : List (List Char)) :
    scan none ([',', ' '].intercalate items) =
      [.mark ','].intercalate (items.map (scan none)) := by
  induction items with
  | nil => rfl
  | cons item items ih =>
    cases items with
    | nil => rw [List.intercalate_singleton, List.map_singleton, List.intercalate_singleton]
    | cons next items =>
      have hblank (rest : List Char) : scan none (' ' :: rest) = scan none rest := rfl
      have hcomma : start? ',' = some (.mark ',') := by decide
      rw [List.intercalate_cons_cons, List.append_assoc, List.cons_append, List.singleton_append,
        scan_append_cons (by decide), hcomma, scan_mark, hblank, ih, List.map_cons, List.map_cons,
        List.map_cons, List.intercalate_cons_cons, List.append_assoc, List.singleton_append]

/-- The pieces of a text in parentheses. -/
theorem scan_parenthesized (cs : List Char) :
    scan none ('(' :: (cs ++ [')'])) = .mark '(' :: (scan none cs ++ [.mark ')']) := by
  have hopening : scan none ('(' :: (cs ++ [')'])) = scan (some (.mark '(')) (cs ++ [')']) := rfl
  rw [hopening, scan_mark, scan_append_cons (by decide)]
  rfl

end Token

/-! ## Insertions -/

/-- What a text says that inserts rows. -/
structure Insertion where
  table : String
  /-- The columns that are given values. -/
  columns : List String
  /-- For each row the numbers of the parameters that are its values. -/
  rows : List (List Nat)
  /-- The columns that are asked back. -/
  returning : List String := []
  deriving DecidableEq

namespace Insertion

/-- Reads names with commas between them, as far as they go. -/
def names? : List Token → Option (List String × List Token)
  | .word name :: .mark ',' :: tokens =>
    (names? tokens).map fun later => (name :: later.1, later.2)
  | .word name :: tokens => some ([name], tokens)
  | _ => none

/-- Reads rows of places with commas between them, as far as they go.  The first row has been begun
with some places. -/
def rows? (begun : List Nat) : List Token → Option (List (List Nat) × List Token)
  | .place number :: .mark ',' :: tokens => rows? (begun ++ [number]) tokens
  | .place number :: .mark ')' :: .mark ',' :: .mark '(' :: tokens =>
    (rows? [] tokens).map fun later => ((begun ++ [number]) :: later.1, later.2)
  | .place number :: .mark ')' :: tokens => some ([begun ++ [number]], tokens)
  | _ => none

/-- Reads what is asked back at the end of a text. -/
def returning? : List Token → Option (List String)
  | [] => some []
  | .word "RETURNING" :: tokens =>
    match names? tokens with
    | some (names, []) => some names
    | _ => none
  | _ => none

/-- Reads a text that inserts rows. -/
def ofTokens? : List Token → Option Insertion
  | .word "INSERT" :: .word "INTO" :: .word table :: .mark '(' :: tokens =>
    match names? tokens with
    | some (columns, .mark ')' :: .word "VALUES" :: .mark '(' :: tokens) => do
      let (rows, tokens) ← rows? [] tokens
      let returning ← returning? tokens
      pure { table, columns, rows, returning }
    | _ => none
  | _ => none

/-- The pieces of places with commas between them. -/
def placeTokens (row : List Nat) : List Token :=
  [.mark ','].intercalate (row.map ([.place ·]))

/-- The pieces of rows of places in parentheses, with commas between the rows. -/
def rowTokens (rows : List (List Nat)) : List Token :=
  [.mark ','].intercalate (rows.map fun row => .mark '(' :: (placeTokens row ++ [.mark ')']))

theorem placeTokens_cons_cons (number next : Nat) (row : List Nat) :
    placeTokens (number :: next :: row) =
      .place number :: .mark ',' :: placeTokens (next :: row) := by
  rw [placeTokens, List.map_cons, List.map_cons, List.intercalate_cons_cons]
  rfl

/-- The last row is read up to its end. -/
theorem rows?_placeTokens_last (begun : List Nat) (number : Nat) (row : List Nat) :
    rows? begun (placeTokens (number :: row) ++ [.mark ')']) =
      some ([begun ++ number :: row], []) := by
  induction row generalizing begun number with
  | nil => rfl
  | cons next row ih =>
    rw [placeTokens_cons_cons, List.cons_append, List.cons_append, rows?, ih, List.append_assoc,
      List.singleton_append]

/-- A row that is followed by another one is read up to its end. -/
theorem rows?_placeTokens_next (begun : List Nat) (number : Nat) (row : List Nat)
    (tokens : List Token) :
    rows? begun (placeTokens (number :: row) ++ .mark ')' :: .mark ',' :: .mark '(' :: tokens) =
      (rows? [] tokens).map fun later => ((begun ++ number :: row) :: later.1, later.2) := by
  induction row generalizing begun number with
  | nil => rfl
  | cons next row ih =>
    rw [placeTokens_cons_cons, List.cons_append, List.cons_append, rows?, ih, List.append_assoc,
      List.singleton_append]

/-- Rows of places are read back, if there is one and none is empty. -/
theorem rows?_rowTokens {rows : List (List Nat)} (hrows : rows ≠ [])
    (hnonempty : ∀ row ∈ rows, row ≠ []) :
    ∃ tokens, rowTokens rows = .mark '(' :: tokens ∧ rows? [] tokens = some (rows, []) := by
  induction rows with
  | nil => exact absurd rfl hrows
  | cons row rows ih =>
    obtain ⟨number, numbers, rfl⟩ :=
      List.exists_cons_of_ne_nil (hnonempty row List.mem_cons_self)
    cases rows with
    | nil =>
      refine ⟨placeTokens (number :: numbers) ++ [.mark ')'], ?_,
        rows?_placeTokens_last [] number numbers⟩
      rw [rowTokens, List.map_singleton, List.intercalate_singleton]
    | cons next rows =>
      obtain ⟨tokens, htokens, hread⟩ := ih (List.cons_ne_nil _ _)
        fun row hrow => hnonempty row (List.mem_cons_of_mem _ hrow)
      refine ⟨placeTokens (number :: numbers) ++
        .mark ')' :: .mark ',' :: .mark '(' :: tokens, ?_, ?_⟩
      · rw [rowTokens, List.map_cons] at htokens
        rw [rowTokens, List.map_cons, List.map_cons, List.intercalate_cons_cons, htokens]
        simp only [List.cons_append, List.append_assoc, List.nil_append]
      · rw [rows?_placeTokens_next, hread]
        rfl

end Insertion

namespace Statement

/-- The parameter with a number. -/
def parameter? (statement : Statement) : Nat → Option Parameter
  | 0 => none
  | number + 1 => statement.parameters[number]?

/-- What a statement says, if it inserts rows. -/
def insertion? (statement : Statement) : Option Insertion :=
  Insertion.ofTokens? (Token.scan none statement.text.toList)

/-- The values of a row by column, if there is a value for each column. -/
def values? (statement : Statement) (columns : List String) (row : List Nat) :
    Option (List (String × Parameter)) := do
  let values ← row.mapM statement.parameter?
  if values.length = columns.length then some (columns.zip values) else none

/-- The rows that a statement inserts, each with its values by column. -/
def inserted? (statement : Statement) : Option (List (List (String × Parameter))) := do
  let insertion ← statement.insertion?
  insertion.rows.mapM (statement.values? insertion.columns)

/-- Parameters that follow one another are found under their numbers. -/
theorem mapM_parameter? {statement : Statement} (before : List Parameter)
    {values after : List Parameter}
    (h : statement.parameters = before ++ (values ++ after)) :
    (List.range' (before.length + 1) values.length).mapM statement.parameter? = some values := by
  induction values generalizing before with
  | nil => rfl
  | cons value values ih =>
    have hfirst : statement.parameter? (before.length + 1) = some value := by
      rw [parameter?, h, List.getElem?_append_right (Nat.le_refl _), Nat.sub_self]
      rfl
    have hlater := ih (before ++ [value]) (by
      rw [h, List.append_assoc, List.singleton_append, List.cons_append])
    rw [List.length_append, List.length_singleton] at hlater
    rw [List.length_cons, List.range'_succ, List.mapM_cons, hfirst, hlater]
    rfl

end Statement

end TeamCalendar.Sql
