import TeamCalendar.Proofs.Text.Digits
import TeamCalendar.Proofs.Text.Utf8
import TeamCalendar.Text.Percent

/-!
# Percent-encoded texts read back

Any text can be percent-encoded: it is read back if each of its bytes is written as a percent sign and
two digits.
-/

namespace TeamCalendar.Text

/-- The text with each byte written as a percent sign and two digits. -/
def percentEncode (s : String) : String :=
  String.ofList ((bytesOf s).flatMap fun b => '%' :: hexByte b)

theorem hexByteValue?_hexDigit {d : Nat} (hd : d < 16) :
    hexByteValue? (UInt8.ofNat (hexDigit d).toNat) = some d := by
  rw [hexByteValue?, (utf8EncodeChar_hexDigit d hd).2, hexValue?_hexDigit d hd]

/-- A byte is read back from its two digits, whatever follows. -/
theorem percentDecodeBytes_hexByte (b : UInt8) (rest : List UInt8) :
    percentDecodeBytes (bytesOfChars ('%' :: hexByte b) ++ rest) = b :: percentDecodeBytes rest := by
  have hupper : b.toNat / 16 % 16 < 16 := Nat.mod_lt _ (by decide)
  have hlower : b.toNat % 16 < 16 := Nat.mod_lt _ (by decide)
  have hdigits : bytesOfChars ('%' :: hexByte b) =
      [0x25, UInt8.ofNat (hexDigit (b.toNat / 16 % 16)).toNat,
        UInt8.ofNat (hexDigit (b.toNat % 16)).toNat] := by
    simp only [hexByte, hexDigits, List.nil_append, List.cons_append, bytesOfChars_cons,
      bytesOfChars_nil, (utf8EncodeChar_hexDigit _ hupper).1, (utf8EncodeChar_hexDigit _ hlower).1]
    rfl
  have hvalue : 16 * (b.toNat / 16 % 16) + b.toNat % 16 = b.toNat := by
    have hbyte := b.toNat_lt
    omega
  rw [hdigits, List.cons_append, List.cons_append, List.cons_append, List.nil_append,
    percentDecodeBytes]
  simp only [hexByteValue?_hexDigit hupper, hexByteValue?_hexDigit hlower, hvalue,
    UInt8.ofNat_toNat]

/-- A text is read back when all its bytes are encoded. -/
theorem percentDecode?_percentEncode (s : String) : percentDecode? (percentEncode s) = some s := by
  have hbytes (bytes : List UInt8) :
      percentDecodeBytes (bytesOfChars (bytes.flatMap fun b => '%' :: hexByte b)) = bytes := by
    induction bytes with
    | nil => rfl
    | cons b bytes ih =>
      rw [List.flatMap_cons, bytesOfChars_append, percentDecodeBytes_hexByte, ih]
  rw [percentDecode?, percentEncode, bytesOf_ofList, hbytes, ofBytes?_bytesOf]

end TeamCalendar.Text
