import TeamCalendar.Text.Case
import TeamCalendar.Text.Hex
import TeamCalendar.Text.Utf8

/-!
# The bytes of a text

The bytes of a text are those of its characters, one after the other, and the text can be read back
from them.  A character outside of the Basic Latin block has a byte that is no code of that block.
-/

namespace TeamCalendar.Text

theorem toList_loop (bytes : ByteArray) (i : Nat) (read : List UInt8) :
    ByteArray.toList.loop bytes i read = read.reverse ++ bytes.data.toList.drop i := by
  fun_induction ByteArray.toList.loop bytes i read with
  | case1 i read hi ih =>
    have hlength : i < bytes.data.toList.length := hi
    have hget : bytes.get! i = bytes.data.toList[i] := getElem!_pos bytes.data i hi
    rw [ih, List.drop_eq_getElem_cons hlength, hget, List.reverse_cons, List.append_assoc,
      List.singleton_append]
  | case2 i read hi =>
    rw [List.drop_of_length_le (Nat.le_of_not_lt hi), List.append_nil]

theorem bytesOf_eq_flatMap (s : String) : bytesOf s = s.toList.flatMap String.utf8EncodeChar := by
  have hutf8 : s.toUTF8 = s.toList.utf8Encode := String.utf8Encode_toList.symm
  rw [bytesOf, hutf8, ByteArray.toList, toList_loop, List.drop_zero, List.utf8Encode,
    List.data_toByteArray]
  rfl

/-- A text can be read back from its bytes. -/
@[simp]
theorem ofBytes?_bytesOf (s : String) : ofBytes? (bytesOf s) = some s := by
  have hbytes : (bytesOf s).toByteArray = s.toByteArray := by
    rw [bytesOf_eq_flatMap]
    exact String.utf8Encode_toList
  rw [ofBytes?, hbytes, String.fromUTF8?, dif_pos s.isValidUTF8]
  rfl

theorem utf8EncodeChar_of_isBasicLatin {c : Char} (h : isBasicLatin c = true) :
    String.utf8EncodeChar c = [UInt8.ofNat c.toNat] := by
  have hc : c.toNat < 0x80 := of_decide_eq_true h
  exact if_pos (Nat.le_of_lt_succ hc)

/-- A hexadecimal digit is one byte. -/
theorem utf8EncodeChar_hexDigit : ∀ d < 16,
    String.utf8EncodeChar (hexDigit d) = [UInt8.ofNat (hexDigit d).toNat] ∧
    Char.ofNat (UInt8.ofNat (hexDigit d).toNat).toNat = hexDigit d := by
  decide

/-- All bytes of any other character have their highest bit set. -/
theorem le_of_mem_utf8EncodeChar {c : Char} (h : isBasicLatin c = false) {b : UInt8}
    (hb : b ∈ String.utf8EncodeChar c) : 128 ≤ b := by
  have hc : ¬ c.val.toNat ≤ 127 := by
    have hlarge : ¬ c.toNat < 0x80 := of_decide_eq_false h
    change ¬ c.toNat ≤ 127
    omega
  have hmark {n mark : Nat} (hmark : 128 ≤ mark) (hn : n + mark < 256) :
      128 ≤ UInt8.ofNat (n + mark) := by
    rw [UInt8.le_iff_toNat_le, UInt8.toNat_ofNat_of_lt' hn]
    change 128 ≤ n + mark
    omega
  rw [String.utf8EncodeChar, if_neg hc] at hb
  split at hb
  · simp only [List.mem_cons, List.not_mem_nil, or_false] at hb
    rcases hb with rfl | rfl <;> exact hmark (by omega) (by omega)
  · split at hb
    · simp only [List.mem_cons, List.not_mem_nil, or_false] at hb
      rcases hb with rfl | rfl | rfl <;> exact hmark (by omega) (by omega)
    · simp only [List.mem_cons, List.not_mem_nil, or_false] at hb
      rcases hb with rfl | rfl | rfl | rfl <;> exact hmark (by omega) (by omega)

theorem utf8EncodeChar_ne_nil (c : Char) : String.utf8EncodeChar c ≠ [] := by
  rw [← List.length_pos_iff, String.length_utf8EncodeChar]
  exact Char.utf8Size_pos c

/-- A text has only bytes below 128 exactly if all its characters lie in the Basic Latin block. -/
theorem forall_mem_bytesOf_lt_iff (s : String) :
    (∀ b ∈ bytesOf s, b < 128) ↔ s.toList.all isBasicLatin = true := by
  rw [bytesOf_eq_flatMap, List.all_eq_true]
  constructor
  · intro hbytes c hc
    cases hlatin : isBasicLatin c with
    | true => rfl
    | false =>
      obtain ⟨b, hb⟩ := List.exists_mem_of_ne_nil _ (utf8EncodeChar_ne_nil c)
      have hlarge := le_of_mem_utf8EncodeChar hlatin hb
      exact absurd (hbytes b (List.mem_flatMap.2 ⟨c, hc, hb⟩)) (UInt8.not_lt.2 hlarge)
  · intro hlatin b hb
    obtain ⟨c, hc, hb⟩ := List.mem_flatMap.1 hb
    rw [utf8EncodeChar_of_isBasicLatin (hlatin c hc), List.mem_singleton] at hb
    have hsmall : c.toNat < 0x80 := of_decide_eq_true (hlatin c hc)
    subst hb
    rw [UInt8.lt_iff_toNat_lt, UInt8.toNat_ofNat_of_lt' (by change c.toNat < 256; omega)]
    exact hsmall

/-- Bytes below 128 are the bytes of a text. -/
theorem exists_bytesOf_eq {bytes : List UInt8} (h : ∀ b ∈ bytes, b < 128) :
    ∃ s, bytesOf s = bytes := by
  refine ⟨String.ofList (bytes.map fun b => Char.ofNat b.toNat), ?_⟩
  rw [bytesOf_eq_flatMap, String.toList_ofList, List.flatMap_map]
  induction bytes with
  | nil => rfl
  | cons b bytes ih =>
    rw [List.forall_mem_cons] at h
    have hb : b.toNat < 128 := UInt8.lt_iff_toNat_lt.1 h.1
    have hchar : (Char.ofNat b.toNat).toNat = b.toNat := by
      rw [Char.ofNat, dif_pos (.inl (by omega))]
      rfl
    have hlatin : isBasicLatin (Char.ofNat b.toNat) = true := by
      rw [isBasicLatin, hchar]
      exact decide_eq_true hb
    rw [List.flatMap_cons, ih h.2, utf8EncodeChar_of_isBasicLatin hlatin, hchar, UInt8.ofNat_toNat]
    rfl

/-- The bytes of characters. -/
def bytesOfChars (cs : List Char) : List UInt8 :=
  cs.flatMap String.utf8EncodeChar

theorem bytesOf_ofList (cs : List Char) : bytesOf (String.ofList cs) = bytesOfChars cs := by
  rw [bytesOf_eq_flatMap, String.toList_ofList, bytesOfChars]

@[simp]
theorem bytesOfChars_nil : bytesOfChars [] = [] :=
  rfl

@[simp]
theorem bytesOfChars_cons (c : Char) (cs : List Char) :
    bytesOfChars (c :: cs) = String.utf8EncodeChar c ++ bytesOfChars cs :=
  List.flatMap_cons

@[simp]
theorem bytesOfChars_append (cs ds : List Char) :
    bytesOfChars (cs ++ ds) = bytesOfChars cs ++ bytesOfChars ds :=
  List.flatMap_append

end TeamCalendar.Text
