/-!
# Bytes and texts

A text travels as its UTF-8 bytes.  Bytes that are no UTF-8 are no text.
-/

namespace TeamCalendar.Text

/-- The bytes of a text. -/
def bytesOf (s : String) : List UInt8 :=
  s.toUTF8.toList

/-- The text that bytes stand for, if they are well-formed UTF-8. -/
def ofBytes? (bytes : List UInt8) : Option String :=
  String.fromUTF8? bytes.toByteArray

end TeamCalendar.Text
