import TeamCalendar.Http.Message

/-!
# Media types

A media type is two tokens with a slash between them, and parameters after semicolons.  A parameter
is a name, an equals sign and a value, which is a token or quoted.  The second token ends in a suffix
if there is a plus sign in it.
-/

namespace TeamCalendar.Http

/-- A media type without its parameters, in lower case. -/
structure MediaType where
  /-- What stands before the slash. -/
  type : List Char
  /-- What stands after the slash, up to the last plus sign. -/
  subtype : List Char
  /-- What stands after the last plus sign. -/
  suffix : Option (List Char)
  deriving DecidableEq

namespace MediaType

/-- Splits a text at the last plus sign that is not its first character. -/
def splitSuffix (cs : List Char) : List Char × Option (List Char) :=
  let after := (cs.tail.reverse.takeWhile (· ≠ '+')).reverse
  if '+' ∈ cs.tail then (cs.take (cs.length - after.length - 1), some after) else (cs, none)

/-- Whether a character may stand between the quotation marks of a value. -/
def isQuotedChar (c : Char) : Bool :=
  32 ≤ c.toNat && c.toNat ≠ 127

/-- Steps over the rest of a value in quotation marks, and over the blanks and the semicolon after
it.  There is at least one character in it, which may be a quotation mark. -/
def skipQuotedValue? (cs : List Char) : Option (List Char) :=
  match cs with
  | [] => none
  | c :: rest =>
    match rest.dropWhile fun c => isQuotedChar c && c ≠ '"' with
    | '"' :: rest =>
      match isQuotedChar c, rest.dropWhile (· = ' ') with
      | true, [] => some []
      | true, ';' :: rest => some rest
      | _, _ => none
    | _ => none

/-- Steps over a value and the semicolon after it.  A value that is not quoted may be empty only at
the end. -/
def skipValue? (cs : List Char) : Option (List Char) :=
  match cs with
  | '"' :: rest => skipQuotedValue? rest
  | _ =>
    match cs.dropWhile isTokenChar with
    | [] => some []
    | ';' :: rest => if cs.head? = some ';' then none else some rest
    | _ => none

/-- Steps over a parameter with the blanks before it. -/
def skipParameter? (cs : List Char) : Option (List Char) :=
  match cs.dropWhile isTokenChar with
  | '=' :: rest => if cs.head? = some '=' then none else skipValue? rest
  | _ => none

/-- Whether all of a text is parameters; there are at most `bound` of them. -/
def areParameters : Nat → List Char → Bool
  | 0, _ => false
  | bound + 1, cs =>
    match cs.dropWhile (· = ' ') with
    | [] => true
    | cs =>
      match skipParameter? cs with
      | some rest => areParameters bound rest
      | none => false

/-- Reads a media type. -/
def parse? (s : String) : Option MediaType :=
  let cs := s.toList
  let type := cs.takeWhile isTokenChar
  match cs.dropWhile isTokenChar with
  | '/' :: rest =>
    let subtype := rest.takeWhile isTokenChar
    let parameters := rest.dropWhile isTokenChar
    let legal := match parameters with
      | [] => true
      | ';' :: parameters =>
        !subtype.isEmpty && areParameters (parameters.length + 1) parameters
      | _ => false
    if !type.isEmpty && legal then
      let (subtype, suffix) := splitSuffix (subtype.map Char.toLower)
      some { type := type.map Char.toLower, subtype, suffix }
    else
      none
  | _ => none

/-- The word for JSON. -/
def json : List Char :=
  ['j', 's', 'o', 'n']

/-- Whether bodies of the type are JSON: `application/json` and `application/*+json`. -/
def isJson (type : MediaType) : Bool :=
  type.type = "application".toList && (type.subtype = json || type.suffix = some json)

end MediaType

/-- Whether the header says that the body is JSON. -/
def Headers.isJson (headers : Headers) : Bool :=
  ((Headers.text? headers "Content-Type").bind MediaType.parse?).any MediaType.isJson

end TeamCalendar.Http
