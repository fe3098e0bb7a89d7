import TeamCalendar.Url.Host

/-!
# Addresses with a scheme

An address has a scheme and a colon; after two slashes a user with a password, a host and the number
of a service on it may follow, then a path and a query.  Hosts have a meaning only with a few schemes,
with which one has to be given.  Characters up to the space at both ends, and tabs and line ends
anywhere, are passed over.
-/

namespace TeamCalendar

/-- An address with a scheme, in parts.  Percent signs are kept, and the path is left out, for a path
cannot be wrong. -/
structure Url where
  /-- The scheme, in lower case. -/
  scheme : String
  /-- The name of a user. -/
  user : List Char := []
  /-- The password of the user. -/
  password : List Char := []
  /-- The host. -/
  host : Option Url.Host := none
  /-- The number of a service on the host. -/
  service : Option Nat := none
  /-- The query. -/
  query : List Char := []
  deriving DecidableEq

namespace Url

/-- What a scheme says about hosts. -/
inductive SchemeKind where
  /-- A host may be given, and nothing with it. -/
  | file
  /-- A host has to be given. -/
  | hosted
  /-- A host may be given and has no meaning. -/
  | free
  deriving DecidableEq

/-- The schemes with which a host has to be given. -/
def hostedSchemes : List String :=
  ["http", "https", "ws", "wss", "ftp"]

/-- The kind of a scheme. -/
def SchemeKind.ofScheme (scheme : String) : SchemeKind :=
  if scheme = "file" then .file
  else if hostedSchemes.contains scheme then .hosted
  else .free

/-- Whether a character is passed over anywhere. -/
def isPassedOver (c : Char) : Bool :=
  c == '\t' || c == '\n' || c == '\r'

/-- Whether a character is passed over at the ends. -/
def isMargin (c : Char) : Bool :=
  c.toNat ≤ 0x20

/-- The characters that count. -/
def clean (cs : List Char) : List Char :=
  (((cs.dropWhile isMargin).reverse.dropWhile isMargin).reverse).filter (!isPassedOver ·)

/-- Whether a character may stand in a scheme. -/
def isSchemeChar (c : Char) : Bool :=
  c.isAlphanum || c == '+' || c == '-' || c == '.'

/-- Splits off the scheme and its colon. -/
def splitScheme? (cs : List Char) : Option (String × List Char) :=
  let scheme := cs.takeWhile isSchemeChar
  match cs.drop scheme.length with
  | ':' :: rest =>
    if scheme.head?.any Char.isAlpha then some ((String.ofList scheme).toLower, rest) else none
  | _ => none

/-- Whether a character separates the names in a path of a scheme with hosts. -/
def isSlash (c : Char) : Bool :=
  c == '/' || c == '\\'

/-- Whether a character ends what stands between the two slashes and the path. -/
def endsAuthority (kind : SchemeKind) (c : Char) : Bool :=
  c == '/' || c == '?' || c == '#' || kind != .free && c == '\\'

/-- The query in what follows the host. -/
def queryOf (cs : List Char) : List Char :=
  match (cs.takeWhile (· != '#')).dropWhile (· != '?') with
  | [] => []
  | _ :: query => query

/-- Splits what stands before the path at its last at sign. -/
def splitUser (cs : List Char) : Option (List Char) × List Char :=
  let host := (cs.reverse.takeWhile (· != '@')).reverse
  if host.length = cs.length then (none, cs)
  else (some (cs.take (cs.length - host.length - 1)), host)

/-- Splits off the host, at the first colon outside of brackets. -/
def splitHost (isInside : Bool) : List Char → List Char × List Char
  | [] => ([], [])
  | c :: rest =>
    if c = ':' ∧ !isInside then ([], c :: rest)
    else
      let isInside := if c = '[' then true else if c = ']' then false else isInside
      let (host, rest) := splitHost isInside rest
      (c :: host, rest)

/-- Reads the number of a service, which may be missing after its colon. -/
def service? (cs : List Char) : Option (Option Nat) :=
  match cs with
  | [] => some none
  | _ :: rest =>
    let digits := rest.takeWhile Text.isDigit
    let follows := (rest.drop digits.length).head?
    if (follows = none ∨ follows = some '\\') ∧ Text.ofDigits digits < 0x10000 then
      some (if digits = [] then none else some (Text.ofDigits digits))
    else none

/-- Reads what stands between the two slashes and the path.  An at sign does not stand alone before a
path, and without a host there is neither a user nor a service. -/
def ofAuthority? (scheme : String) (kind : SchemeKind) (cs : List Char) : Option Url := do
  let authority := cs.takeWhile (!endsAuthority kind ·)
  let rest := cs.drop authority.length
  let (userInfo, location) := splitUser authority
  let user := (userInfo.getD []).takeWhile (· != ':')
  let password := (userInfo.getD []).drop (user.length + 1)
  let (host, service) := splitHost false location
  if userInfo = some [] ∧ location = [] ∧ rest ≠ [] then none
  else if host = [] then
    if kind = .free ∧ user = [] ∧ password = [] ∧ service = [] then
      some { scheme, query := queryOf rest }
    else none
  else
    let host ← if kind = .free then Host.plain? host else Host.ofChars? host
    let service ← service? service
    some { scheme, user, password, host, service, query := queryOf rest }

/-- Whether a text names a drive instead of a host. -/
def isDrive : List Char → Bool
  | [letter, mark] => letter.isAlpha && (mark == ':' || mark == '|')
  | _ => false

/-- Reads what follows the scheme of a file; the local host is no host. -/
def ofFile? (scheme : String) (cs : List Char) : Option Url :=
  match cs with
  | a :: b :: rest =>
    let host := rest.takeWhile (!endsAuthority .file ·)
    let url : Url := { scheme, query := queryOf cs }
    if !isSlash a || !isSlash b || host.isEmpty || isDrive host then some url
    else (Host.ofChars? host).map fun host =>
      if host = Host.domain ["localhost".toList] then url else { url with host := some host }
  | cs => some { scheme, query := queryOf cs }

/-- Reads an address. -/
def parse? (s : String) : Option Url := do
  let (scheme, rest) ← splitScheme? (clean s.toList)
  match SchemeKind.ofScheme scheme, rest with
  | .file, rest => ofFile? scheme rest
  | .hosted, rest => ofAuthority? scheme .hosted (rest.dropWhile isSlash)
  | .free, '/' :: '/' :: rest => ofAuthority? scheme .free rest
  | .free, rest => some { scheme, query := queryOf rest }

end Url

end TeamCalendar
