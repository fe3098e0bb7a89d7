import TeamCalendar.Json.Codec
import TeamCalendar.Proofs.Json.Quoted

/-!
# Forms read back

A codec restores the values of a type if each is read back from the form in which it is written,
whatever follows.  Then nothing is lost in writing.

* `Codec.Restores` is kept by the ways to put codecs together; it is proved for each of them here.
* `Codec.Lossless` says what follows for whole texts.
-/

namespace TeamCalendar.Json

open Reader

namespace Codec

variable {α : Type}

/-- Each value is read back from what is written of it, whatever follows. -/
structure Restores (codec : Codec α) : Prop where
  read_write : ∀ value rest, codec.read ((codec.write value).bytes ++ rest) = .ok (value, rest)
  starts : ∀ value, StartsValue (codec.write value).bytes

/-- Nothing is lost in writing: each value is read back from its text, so that different values have
different texts, and writing again what was read makes no difference. -/
structure Lossless (codec : Codec α) : Prop where
  decode_encode : ∀ value, codec.decode (Text.bytesOf (codec.encode value)) = .ok value
  encode_injective : codec.encode.Injective
  encode_decode : ∀ value other,
    codec.decode (Text.bytesOf (codec.encode value)) = .ok other →
    codec.encode other = codec.encode value

theorem Restores.lossless {codec : Codec α} (h : codec.Restores) : codec.Lossless := by
  have hdecode : ∀ value, codec.decode (Text.bytesOf (codec.encode value)) = .ok value := by
    intro value
    have hread := h.read_write value []
    rw [List.append_nil] at hread
    rw [decode, encode, bytesOf_toText, Reader.whole, hread]
    rfl
  refine ⟨hdecode, ?_, ?_⟩
  · intro value other heq
    have hvalue := hdecode value
    rw [heq, hdecode other] at hvalue
    exact (Except.ok.inj hvalue).symm
  · intro value other hother
    rw [hdecode value] at hother
    rw [Except.ok.inj hother]

/-! ## Texts -/

theorem startsValue_text (s : String) : StartsValue (bytes (.text s)) :=
  ⟨quotationMark, _, bytes_text s, .text⟩

theorem readText_text (s : String) (rest : List UInt8) :
    readText (bytes (.text s) ++ rest) = .ok (s, rest) := by
  have hkey := readKey_text s rest
  rw [bytes_text] at hkey ⊢
  exact hkey

theorem restores_text : text.Restores where
  read_write := readText_text
  starts := startsValue_text

theorem restores_parsed {parse? : String → Option α} {print : α → String}
    (h : ∀ value, parse? (print value) = some value) : (parsed parse? print).Restores where
  read_write value rest := by
    change (readText >>= _) (bytes (.text (print value)) ++ rest) = _
    rw [bind_ok (readText_text (print value) rest), h]
    rfl
  starts value := startsValue_text (print value)

/-- A value is read where a text is read that is its own. -/
theorem read_parsed_eq_ok_iff {parse? : String → Option α} {print : α → String} {value : α}
    {input rest : List UInt8} :
    (parsed parse? print).read input = .ok (value, rest) ↔
      ∃ s, text.read input = .ok (s, rest) ∧ parse? s = some value := by
  change (readText >>= _) input = _ ↔ ∃ s, readText input = _ ∧ _
  rw [bind_eq_ok_iff]
  constructor
  · rintro ⟨s, between, htext, hparsed⟩
    cases hfound : parse? s with
    | none =>
      rw [hfound] at hparsed
      cases hparsed
    | some found =>
      rw [hfound] at hparsed
      cases hparsed
      exact ⟨s, htext, hfound⟩
  · rintro ⟨s, htext, hvalue⟩
    refine ⟨s, rest, htext, ?_⟩
    rw [hvalue]
    rfl

theorem restores_oneOf {words : List (String × α)} {word : α → String}
    (h : ∀ value, words.lookup (word value) = some value) : (oneOf words word).Restores where
  read_write value rest := by
    have hkey := readKey_text (word value) rest
    have hword : ofWord words (word value) rest = .ok (value, rest) := by
      rw [ofWord, h]
      rfl
    have hread : (readKey >>= ofWord words) (bytes (.text (word value)) ++ rest) =
        .ok (value, rest) := by
      rw [bind_ok hkey, hword]
    change (oneOf words word).read (bytes (.text (word value)) ++ rest) = _
    rw [bytes_text] at hread ⊢
    exact hread
  starts value := startsValue_text (word value)

/-! ## Values that may be null, and lists -/

/-- No value is written as one that is null. -/
def Filled (codec : Codec α) : Prop :=
  ∀ value tail, (codec.write value).bytes ≠ 0x6e :: tail

theorem filled_text : text.Filled := by
  intro value tail heq
  change bytes (.text value) = _ at heq
  rw [bytes_text] at heq
  cases heq

theorem filled_parsed {parse? : String → Option α} {print : α → String} :
    (parsed parse? print).Filled := by
  intro value tail heq
  change bytes (.text (print value)) = _ at heq
  rw [bytes_text] at heq
  cases heq

theorem filled_oneOf {words : List (String × α)} {word : α → String} :
    (oneOf words word).Filled := by
  intro value tail heq
  change bytes (.text (word value)) = _ at heq
  rw [bytes_text] at heq
  cases heq

theorem Restores.nullable {codec : Codec α} (h : codec.Restores) (hfilled : codec.Filled) :
    codec.nullable.Restores where
  read_write value rest := by
    cases value with
    | none => rfl
    | some value =>
      obtain ⟨b, tail, hbytes, hb⟩ := h.starts value
      have hread := map_ok (h.read_write value rest) some
      change codec.nullable.read ((codec.write value).bytes ++ rest) = _
      rw [hbytes] at hread ⊢
      cases hb with
      | text => exact hread
      | list => exact hread
      | object => exact hread
      | null => exact absurd hbytes (hfilled value tail)
  starts value := by
    cases value with
    | none => exact ⟨0x6e, [0x75, 0x6c, 0x6c], rfl, .null⟩
    | some value => exact h.starts value

theorem Restores.list {codec : Codec α} (h : codec.Restores) : codec.list.Restores where
  read_write values rest := by
    have hread := readList_separated h.read_write h.starts values rest
    have hbytes : (codec.list.write values).bytes ++ rest =
        openBracket :: (separated (values.map fun value => (codec.write value).bytes) ++
          closeBracket :: rest) := by
      change bytes (.list (values.map codec.write)) ++ rest = _
      rw [bytes_list, List.map_map, List.cons_append, List.append_assoc]
      rfl
    rw [hbytes]
    exact hread
  starts values := ⟨openBracket, _, bytes_list _, .list⟩

end Codec

end TeamCalendar.Json
