import TeamCalendar.Http.Message

/-!
# Targets

The target of a request is a path with an optional query, or an address with a scheme, or only the
authority of an address.  Only the path matters for what becomes of the request, but the whole target
has to be well formed.
-/

namespace TeamCalendar.Http

/-- Whether a character may stand in a path. -/
def isPathChar (c : Char) : Bool :=
  let n := c.toNat
  n == 0x21 || (0x24 ≤ n && n ≤ 0x3B) || n == 0x3D || (0x40 ≤ n && n ≤ 0x5F) ||
    (0x61 ≤ n && n ≤ 0x7E) || 0x80 ≤ n || c == '"'

/-- Whether a character may stand in a query. -/
def isQueryChar (c : Char) : Bool :=
  let n := c.toNat
  n == 0x21 || (0x24 ≤ n && n ≤ 0x3B) || n == 0x3D || (0x3F ≤ n && n ≤ 0x7E) || 0x80 ≤ n

/-- The path at the start of a target, if what follows it is a query or a fragment. -/
def originPath? (cs : List Char) : Option String :=
  let path := cs.takeWhile fun c => c ≠ '?' && c ≠ '#'
  let query := match cs.drop path.length with
    | '?' :: rest => rest.takeWhile (· ≠ '#')
    | _ => []
  if path.all isPathChar && query.all isQueryChar then some (String.ofList path) else none

/-- Whether a character may stand anywhere in an authority. -/
def isAuthorityChar (c : Char) : Bool :=
  c.isAlphanum || "-._~!$&*+,;=()".toList.contains c || c == '\x27'

/-- What has been seen of an authority. -/
structure AuthorityScan where
  /-- How many colons there are outside of what names a user and outside of brackets. -/
  colons : Nat := 0
  /-- Whether there is an opening bracket. -/
  isOpened : Bool := false
  /-- Whether there is a closing bracket. -/
  isClosed : Bool := false
  /-- Whether there is a percent sign outside of what names a user and outside of brackets. -/
  hasPercent : Bool := false
  /-- Whether an at sign came last. -/
  endsWithAt : Bool := false

/-- The greatest number of colons in a row of parts. -/
def AuthorityScan.maxColons : Nat :=
  8

/-- Sees one more character, if it may follow.  Only at an at sign it is clear that the colons and the
percent signs before it belong to a user, and only at a closing bracket that they stood inside. -/
def AuthorityScan.next? (scan : AuthorityScan) (c : Char) : Option AuthorityScan :=
  let scan := { scan with endsWithAt := false }
  match c with
  | ':' => if scan.colons < maxColons then some { scan with colons := scan.colons + 1 } else none
  | '[' => if scan.hasPercent || scan.isOpened then none else some { scan with isOpened := true }
  | ']' =>
    if !scan.isOpened || scan.isClosed then none
    else some { scan with isClosed := true, colons := 0, hasPercent := false }
  | '@' => some { scan with colons := 0, hasPercent := false, endsWithAt := true }
  | '%' => some { scan with hasPercent := true }
  | c => if isAuthorityChar c then some scan else none

/-- Whether a text that was seen in full is an authority. -/
def AuthorityScan.isComplete (scan : AuthorityScan) : Bool :=
  scan.isOpened == scan.isClosed && scan.colons ≤ 1 && !scan.endsWithAt && !scan.hasPercent

/-- Whether a text is an authority: a host, before which a user and an at sign may stand, and after
which a colon and a number. -/
def isAuthority (cs : List Char) : Bool :=
  (cs.foldlM AuthorityScan.next? {}).any (·.isComplete)

/-- The path of an address after its scheme; without a path it is a slash. -/
def addressPath? (cs : List Char) : Option String :=
  let authority := cs.takeWhile fun c => c ≠ '/' && c ≠ '?' && c ≠ '#'
  let rest := cs.drop authority.length
  if authority.isEmpty || !isAuthority authority then none
  else if rest.head? = some '/' then originPath? rest
  else (originPath? rest).map fun _ => "/"

/-- Whether a character may stand in the scheme of a target. -/
def isTargetSchemeChar (c : Char) : Bool :=
  c.isAlphanum || "+-.~".toList.contains c

/-- The greatest length of a scheme. -/
def maxSchemeLength : Nat :=
  64

/-- The greatest length of a target, in bytes. -/
def maxTargetLength : Nat :=
  65534

/-- The path of a target; that of an authority is empty. -/
def pathOfTarget? (target : String) : Option String :=
  if maxTargetLength < target.utf8ByteSize then none
  else
    match target.toList with
    | [] => none
    | ['*'] => some "*"
    | '/' :: rest => originPath? ('/' :: rest)
    | cs =>
      let scheme := cs.takeWhile isTargetSchemeChar
      match cs.drop scheme.length with
      | ':' :: '/' :: '/' :: rest =>
        if maxSchemeLength < scheme.length then none else addressPath? rest
      | _ => if isAuthority cs then some "" else none

end TeamCalendar.Http
