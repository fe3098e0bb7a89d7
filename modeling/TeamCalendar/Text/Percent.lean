import TeamCalendar.Text.Hex
import TeamCalendar.Text.Utf8

/-!
# Percent-encoded texts

A percent sign before two hexadecimal digits stands for a byte; any other percent sign stands for
itself.
-/

namespace TeamCalendar.Text

/-- The value of a byte that is a hexadecimal digit. -/
def hexByteValue? (b : UInt8) : Option Nat :=
  hexValue? (Char.ofNat b.toNat)

/-- Replaces each percent sign before two digits, with them, by the byte that it stands for. -/
def percentDecodeBytes : List UInt8 → List UInt8
  | 0x25 :: hi :: lo :: rest =>
    match hexByteValue? hi, hexByteValue? lo with
    | some h, some l => UInt8.ofNat (16 * h + l) :: percentDecodeBytes rest
    | _, _ => 0x25 :: percentDecodeBytes (hi :: lo :: rest)
  | b :: rest => b :: percentDecodeBytes rest
  | [] => []

/-- The text of a percent-encoded text, if its bytes are a text. -/
def percentDecode? (s : String) : Option String :=
  ofBytes? (percentDecodeBytes (bytesOf s))

end TeamCalendar.Text
