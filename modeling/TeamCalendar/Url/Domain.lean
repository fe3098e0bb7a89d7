import TeamCalendar.Url.DomainTable
import TeamCalendar.Url.Label
import TeamCalendar.Url.Punycode

/-!
# Domains

A domain is a list of labels with points between them.  Many characters stand for others in it:
capital letters for small ones, wide letters for narrow ones.  Here they are replaced where they stand
for characters of the Basic Latin block; others are kept, for all that matters is that such a character
may stand there.  A label that begins with `xn--` is in Punycode, and what it is read as has to be in
order too.
-/

namespace TeamCalendar.Url.Domain

open Text (inRanges isBasicLatin)

/-- Whether a character of the Basic Latin block may not stand in a domain. -/
def isForbidden (c : Char) : Bool :=
  c.toNat ≤ 0x20 || c.toNat == 0x7F || "#%/:<>?@[\\]^|".toList.contains c

/-- What a character stands for, if it may stand in a domain. -/
def spell? (c : Char) : Option (List Char) :=
  if isBasicLatin c then if isForbidden c then none else some [c.toLower]
  else if inRanges excludedRanges c then none
  else if inRanges ignoredRanges c then some []
  else
    match spellings.lookup c.toNat with
    | some spelling => some spelling.toList
    | none => some [((spellingRuns.findSome? (·.image? c.toNat)).map Char.ofNat).getD c]

/-- Whether a character is a capital letter that is used in place of its lower case. -/
def isCherokee (c : Char) : Bool :=
  0x13A0 ≤ c.toNat && c.toNat ≤ 0x13F5

/-- Whether a character stands for itself. -/
def isSettled (c : Char) : Bool :=
  spell? c == some [c] && !inRanges foldedRanges c && (isCherokee c || Text.lowerChar c == [c])

/-- The labels of a domain, each character replaced by what it stands for. -/
def labels? (cs : List Char) : Option (List (List Char)) :=
  (cs.mapM spell?).map fun spelled => spelled.flatten.splitOn '.'

/-- How labels in Punycode begin. -/
def punycodeStart : List Char :=
  "xn--".toList

/-- What a label is read as.  A label in Punycode needs characters outside of the Basic Latin block,
all of its characters have to stand for themselves, and it does not hold another such label. -/
def readLabel? (label : List Char) : Option (List Char) :=
  if punycodeStart.isPrefixOf label then do
    let code := label.drop punycodeStart.length
    let read ← if code.all isBasicLatin then Punycode.decode? code else none
    if read.all isBasicLatin || !read.all isSettled || punycodeStart.isPrefixOf read then none
    else some read
  else some label

/-- Whether labels as they are read may form a domain. -/
def areOrdered (labels : List (List Char)) : Bool :=
  let directions := labels.map (·.map Direction.ofChar)
  labels.all isLabel &&
    (!directions.any (·.any (·.isMixing)) || directions.all areDirectionsOrdered)

/-- The labels of a domain, if it is one. -/
def parse? (cs : List Char) : Option (List (List Char)) := do
  let labels ← labels? cs
  let read ← labels.mapM readLabel?
  if labels = [[]] || !areOrdered read then none else some labels

end TeamCalendar.Url.Domain
