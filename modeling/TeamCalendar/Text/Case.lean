import TeamCalendar.Text.CaseTable

/-!
# Upper and lower case

The full case mappings of Unicode, independent of any language: a character may map to several
characters, and only the capital sigma looks at its neighbours.  A sigma that ends a word, that is
one with a letter somewhere before it and none after it once the characters in between that do not
count are passed over, becomes `ς`, any other `σ`.
-/

namespace TeamCalendar.Text

/-- The image of a code point under a run, if the run has it. -/
def CaseRun.image? (run : CaseRun) (code : Nat) : Option Nat :=
  if run.first ≤ code ∧ code ≤ run.last ∧ (code - run.first) % run.step = 0 then
    some (Int.toNat (code + run.shift))
  else
    none

/-- Maps a character by a table of runs and a table of longer images; a character that neither
table has maps to itself. -/
def mapCase (runs : List CaseRun) (expansions : List (Nat × List Nat)) (c : Char) : List Char :=
  match expansions.lookup c.toNat with
  | some codes => codes.map Char.ofNat
  | none =>
    match runs.findSome? (·.image? c.toNat) with
    | some code => [Char.ofNat code]
    | none => [c]

/-- Whether a character lies in the Basic Latin block. -/
def isBasicLatin (c : Char) : Bool :=
  c.toNat < 0x80

/-- The lower case of one character, its neighbours left out of account. -/
def lowerChar (c : Char) : List Char :=
  if isBasicLatin c then [c.toLower] else mapCase lowerRuns lowerExpansions c

/-- The upper case of one character. -/
def upperChar (c : Char) : List Char :=
  if isBasicLatin c then [c.toUpper] else mapCase upperRuns upperExpansions c

/-- Whether a code point lies in one of the ranges. -/
def inRanges (ranges : List (Nat × Nat)) (c : Char) : Bool :=
  ranges.any fun range => range.1 ≤ c.toNat && c.toNat ≤ range.2

/-- Whether the first character that counts is a letter with a case. -/
def startsCased (cs : List Char) : Bool :=
  match cs.dropWhile (inRanges caseIgnorableRanges) with
  | [] => false
  | c :: _ => inRanges casedRanges c

/-- The lower case of a sigma between two texts; the one before it is given backwards. -/
def lowerSigma (before after : List Char) : Char :=
  if startsCased before && !startsCased after then 'ς' else 'σ'

/-- Lowers a text of which the part before is given backwards; `out` is the result so far,
backwards. -/
def lowerFrom (before out : List Char) : List Char → List Char
  | [] => out.reverse
  | c :: after =>
    let image := if c = 'Σ' then [lowerSigma before after] else lowerChar c
    lowerFrom (c :: before) (image.reverseAux out) after

/-- The lower case of a text. -/
def lowerChars (cs : List Char) : List Char :=
  lowerFrom [] [] cs

/-- The upper case of a text. -/
def upperChars (cs : List Char) : List Char :=
  cs.flatMap upperChar

/-- The lower case of a text. -/
def lower (s : String) : String :=
  String.ofList (lowerChars s.toList)

/-- The upper case of a text. -/
def upper (s : String) : String :=
  String.ofList (upperChars s.toList)

end TeamCalendar.Text
