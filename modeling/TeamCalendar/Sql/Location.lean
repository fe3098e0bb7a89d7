import TeamCalendar.Url

/-!
# Locations of databases

A location is an address with a scheme, which may be any.  The names of the user, of its password and
of a host that is a path have to stand for texts, and an option in the query has to have a value that
makes sense.
-/

namespace TeamCalendar.Sql.Location

/-- Whether percent signs in a part stand for a text. -/
def isDecodable (cs : List Char) : Bool :=
  (Text.percentDecode? (String.ofList cs)).isSome

/-- Whether a host without a meaning is a path, given that a percent sign may stand for its first
slash. -/
def isPath (host : List Char) : Bool :=
  (Text.percentDecodeBytes (Text.bytesOf (String.ofList host))).head? = some 0x2f

/-- Whether a host makes sense. -/
def isHost : Url.Host → Bool
  | .plain host => !isPath host || isDecodable host
  | .domain _ | .number _ | .bracketed _ => true

/-- The values of the option that says how a connection is protected. -/
def protections : List String :=
  ["disable", "allow", "prefer", "require", "verify-ca", "verify-full"]

/-- Whether a text is the address of a host. -/
def isHostAddress (s : String) : Bool :=
  Address.octets s.toList = some [] || Address.hextets s.toList = some []

/-- Whether the value of an option makes sense; options that are not known do not matter. -/
def isOption (key value : String) : Bool :=
  if key = "sslmode" ∨ key = "ssl-mode" then protections.contains value.toLower
  else if key = "statement-cache-capacity" then (Text.unsigned? 64 value).isSome
  else if key = "hostaddr" then isHostAddress value
  else if key = "port" then (Text.unsigned? 16 value).isSome
  else true

/-- The text of a key or a value of an option; a plus sign stands for a blank. -/
def optionText (cs : List Char) : String :=
  (Text.percentDecode? (String.ofList (cs.map fun c => if c = '+' then ' ' else c))).getD ""

/-- Whether the options make sense. -/
def areOptions (query : List Char) : Bool :=
  (query.splitOn '&').all fun part =>
    isOption (optionText (part.takeWhile (· != '='))) (optionText ((part.dropWhile (· != '=')).drop 1))

/-- Whether a text is a location of a database. -/
def isLocation (s : String) : Bool :=
  (Url.parse? s).any fun url =>
    url.host.all isHost && isDecodable url.user && isDecodable url.password && areOptions url.query

end TeamCalendar.Sql.Location
