import TeamCalendar.Text.Utf8

/-!
# Requests and responses

Header fields are kept in the order in which they came.  The name of a field is compared without
regard to case.  Its value is bytes; only a value of printable characters, blanks and tabs of the
Basic Latin block counts as a text.
-/

namespace TeamCalendar.Http

/-- Characters besides letters and digits that may stand in a token. -/
def tokenMarks : List Char :=
  ['!', '#', '$', '%', '&', '\x27', '*', '+', '-', '.', '^', '_', '\x60', '|', '~']

/-- Whether a character may stand in a token. -/
def isTokenChar (c : Char) : Bool :=
  c.isAlphanum || tokenMarks.contains c

/-- Whether a text is a token: characters of a token, and at least one of them. -/
def isToken (s : String) : Bool :=
  !s.isEmpty && s.toList.all isTokenChar

/-- Whether a text may be the name of a header field. -/
def isFieldName (s : String) : Bool :=
  isToken s && s.utf8ByteSize < 0x10000

/-- Whether a byte may stand in the value of a header field: any but control characters, of which a
tab is allowed. -/
def isValueByte (b : UInt8) : Bool :=
  b == 0x09 || (0x20 ≤ b && b != 0x7f)

/-- Whether a byte may stand in a value that counts as a text. -/
def isTextByte (b : UInt8) : Bool :=
  b == 0x09 || (0x20 ≤ b && b < 0x7f)

/-- A field of a header. -/
structure Field where
  /-- The name. -/
  name : String
  /-- The value. -/
  value : List UInt8

namespace Field

/-- The field with the given name, whose value is a text. -/
def ofText (name value : String) : Field :=
  { name, value := Text.bytesOf value }

/-- Whether the field has the given name; case does not matter. -/
def isNamed (field : Field) (name : String) : Bool :=
  field.name.toLower == name.toLower

/-- Whether the field may be sent. -/
def isLegal (field : Field) : Bool :=
  isFieldName field.name && field.value.all isValueByte

end Field

/-- The header of a request. -/
abbrev Headers :=
  List Field

namespace Headers

/-- The value of the first field with the given name. -/
def first? (headers : Headers) (name : String) : Option (List UInt8) :=
  (headers.find? (·.isNamed name)).map (·.value)

/-- The value of the first field with the given name, if it is a text. -/
def text? (headers : Headers) (name : String) : Option String :=
  (first? headers name).bind fun value =>
    if value.all isTextByte then Text.ofBytes? value else none

end Headers

/-- A request to the service. -/
structure Request where
  /-- The method. -/
  method : String
  /-- The path, as it was sent. -/
  path : String
  /-- The header. -/
  headers : Headers := []
  /-- The body. -/
  body : List UInt8 := []
  /-- Whether the header tells the length of the body. -/
  declaresLength : Bool := true

/-- A response of the service. -/
structure Response where
  /-- The status. -/
  status : Nat
  /-- The type of the body, if it has one. -/
  contentType : Option String := none
  /-- The methods that are allowed instead. -/
  allow : Option String := none
  /-- The body. -/
  body : String := ""
  deriving DecidableEq

end TeamCalendar.Http
