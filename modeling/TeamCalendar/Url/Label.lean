import TeamCalendar.Text.Case
import TeamCalendar.Url.DirectionTable

/-!
# Labels

The labels of a domain are the texts between its points.  A label does not begin with a mark, and the
characters that join or separate letters stand in it only where they have an effect.  If a domain has
letters that are written to the left, the directions in each of its labels have to go together.
-/

namespace TeamCalendar.Url

open Text (inRanges isBasicLatin)

/-- How a character takes part in the direction of a text. -/
inductive Direction where
  /-- A letter that is written to the right. -/
  | rightward
  /-- A letter that is written to the left. -/
  | leftward
  /-- A letter of an Arabic script. -/
  | arabic
  /-- A digit that goes with the Arabic scripts. -/
  | arabicDigit
  /-- A digit that goes with any script. -/
  | digit
  /-- A character without a direction. -/
  | neutral
  /-- A mark that has the direction of what it is put on. -/
  | attached
  deriving DecidableEq

/-- The direction of a character. -/
def Direction.ofChar (c : Char) : Direction :=
  if isBasicLatin c then
    if c.isAlpha then .rightward else if c.isDigit then .digit else .neutral
  else if inRanges attachedRanges c then .attached
  else if inRanges leftwardRanges c then .leftward
  else if inRanges arabicRanges c then .arabic
  else if inRanges arabicDigitRanges c then .arabicDigit
  else if inRanges digitRanges c then .digit
  else if inRanges neutralRanges c then .neutral
  else .rightward

/-- Whether a character makes it matter how the directions in its domain go together. -/
def Direction.isMixing : Direction → Bool
  | leftward | arabic | arabicDigit => true
  | rightward | digit | neutral | attached => false

/-- Whether the directions in a label go together.  A label that begins with a letter written to the
right has no letters written to the left nor their digits, and ends with a letter or a digit.  A label
that begins with a letter written to the left has no letters written to the right, does not have both
kinds of digits, and ends with a letter or a digit. -/
def areDirectionsOrdered (directions : List Direction) : Bool :=
  let last := (directions.reverse.dropWhile (· = .attached)).head?
  match directions.head? with
  | none => true
  | some .rightward =>
    directions.all (!·.isMixing) && (last = some .rightward || last = some .digit)
  | some .leftward | some .arabic =>
    !directions.contains .rightward &&
      !(directions.contains .digit && directions.contains .arabicDigit) && last ≠ some .neutral
  | some _ => false

/-- Whether a character is a mark. -/
def isMark (c : Char) : Bool :=
  inRanges attachedRanges c || inRanges spacingMarkRanges c

/-- Whether a letter joins with what follows it. -/
def joinsOnward (c : Char) : Bool :=
  inRanges dualJoiningRanges c || inRanges leftJoiningRanges c

/-- Whether a letter joins with what precedes it. -/
def joinsBackward (c : Char) : Bool :=
  inRanges dualJoiningRanges c || inRanges rightJoiningRanges c

/-- Whether a joiner or a separator has an effect between two texts; the one before it is given
backwards.  Both do after a mark that suppresses a vowel, and a separator does between letters that
would join. -/
def hasJoiningEffect (c : Char) (before after : List Char) : Bool :=
  before.head?.any (inRanges viramaRanges) ||
    c == '\u200c' && (before.dropWhile (inRanges attachedRanges)).head?.any joinsOnward &&
      (after.dropWhile (inRanges attachedRanges)).head?.any joinsBackward

/-- Whether all joiners and separators of a text have an effect; the text before is given
backwards. -/
def areJoinersEffective (before : List Char) : List Char → Bool
  | [] => true
  | c :: after =>
    (c != '\u200c' && c != '\u200d' || hasJoiningEffect c before after) &&
      areJoinersEffective (c :: before) after

/-- Whether a text may be a label, the directions left out of account. -/
def isLabel (label : List Char) : Bool :=
  !label.head?.any isMark && areJoinersEffective [] label

end TeamCalendar.Url
