import TeamCalendar.Json.Skip
import TeamCalendar.Proofs.Json.Quoted
import TeamCalendar.Proofs.Json.Record

/-!
# What is skipped

A text is skipped as a whole, whatever is escaped in it.  So a record is read from an object that has
a text before its fields, under a key that none of them has.
-/

namespace TeamCalendar.Json

open Reader

/-! ## Skipping a text -/

/-- One step of skipping a quoted text. -/
def skipStep : Unit → Reader (Progress Unit Unit)
  | () => do
    let b ← next
    if b = quotationMark then
      pure (.done ())
    else if b = backslash then
      skipEscape
      pure (.again ())
    else if b < 0x20 then
      fail .malformed
    else
      pure (.again ())

theorem skipQuoted_eq : skipQuoted = repeated skipStep () :=
  rfl

theorem skipStep_plain {b : UInt8} (hb : Plain b) (rest : List UInt8) :
    skipStep () (b :: rest) = .ok (.again (), rest) := by
  have hnext : next (b :: rest) = .ok (b, rest) := rfl
  rw [skipStep, bind_ok hnext, if_neg hb.ne_quotationMark, if_neg hb.ne_backslash,
    if_neg hb.not_control]
  rfl

theorem skipStep_escape {tail rest : List UInt8} (hescape : skipEscape tail = .ok ((), rest)) :
    skipStep () (backslash :: tail) = .ok (.again (), rest) := by
  have hnext : next (backslash :: tail) = .ok (backslash, tail) := rfl
  rw [skipStep, bind_ok hnext, if_neg (by decide), if_pos rfl, bind_ok hescape]
  rfl

theorem skipEscape_short {b : UInt8} (hother : b ≠ unitEscape)
    (hlookup : (shortEscapes.lookup b).isSome = true) (rest : List UInt8) :
    skipEscape (b :: rest) = .ok ((), rest) := by
  have hnext : next (b :: rest) = .ok (b, rest) := rfl
  rw [skipEscape, bind_ok hnext, if_neg hother, if_pos hlookup]
  rfl

theorem skipEscape_control {c : Char} (hc : c.toNat < 0x20) (rest : List UInt8) :
    skipEscape (unitEscape :: (Text.bytesOfChars (Text.hexDigits 4 c.toNat) ++ rest)) =
      .ok ((), rest) := by
  have hunit := readUnit_hexDigits (show c.toNat < 16 ^ 4 by omega) rest
  have hnext (input : List UInt8) : next (unitEscape :: input) = .ok (unitEscape, input) := rfl
  rw [skipEscape, bind_ok (hnext _), if_pos rfl, bind_ok hunit]
  rfl

/-- Skipping keeps nothing. -/
theorem scans_skipStep : Scans skipStep fun () _ => () where
  plain hb _ rest := skipStep_plain hb rest
  short hother hlookup _ rest :=
    skipStep_escape (skipEscape_short hother (Option.isSome_of_eq_some hlookup) rest)
  control hc _ rest := skipStep_escape (skipEscape_control hc rest)

/-- A text is skipped, whatever follows. -/
theorem skipValue_text (s : String) (rest : List UInt8) :
    skipValue (bytes (.text s) ++ rest) = .ok ((), rest) := by
  have hclose : Repeats skipStep () (quotationMark :: rest) () rest := .done rfl
  have hquoted : skipQuoted
      (Text.bytesOfChars (s.toList.flatMap escapeChar) ++ quotationMark :: rest) =
      .ok ((), rest) := by
    rw [skipQuoted_eq]
    exact (scans_skipStep.repeats_chars s.toList hclose).repeated_eq
  refine Repeats.repeated_eq (.done ?_)
  have hstep := bind_ok hquoted fun () => (pure (Skipping.close []) : Reader (Progress Skipping Unit))
  rw [bytes_text, List.cons_append, List.append_assoc, List.singleton_append]
  exact hstep

/-! ## Members of others -/

namespace Fields

variable {αs : List Type}

theorem readMember?_eq_none {fields : Fields αs} {key : String} (hkey : key ∉ fields.keys)
    (draft : Draft αs) : fields.readMember? key draft = none := by
  induction fields with
  | nil => rfl
  | cons field fields ih =>
    obtain ⟨value, draft⟩ := draft
    rw [keys, List.mem_cons, not_or] at hkey
    rw [readMember?_of_ne hkey.1, ih hkey.2]
    rfl

/-- A text under a key that names no field is skipped. -/
theorem readMember_other {fields : Fields αs} {key : String} (hkey : key ∉ fields.keys)
    (draft : Draft αs) (s : String) (rest : List UInt8) :
    fields.readMember draft (memberBytes (key, .text s) ++ rest) = .ok (draft, rest) := by
  rw [memberBytes, List.append_assoc, readMember, bind_ok (readKey_text _ _),
    readMember?_eq_none hkey, List.cons_append]
  exact (bind_ok (readColon_cons _) _).trans (bind_ok (skipValue_text s rest) _)

/-- A record is read from an object that has another text before its fields. -/
theorem Restorable.read_object_after {fields : Fields αs} (h : fields.Restorable) {key : String}
    (hkey : key ∉ fields.keys) (s : String) (row : Row αs) (rest : List UInt8) :
    fields.read (bytes (.object ((key, .text s) :: fields.members row)) ++ rest) =
      .ok (row, rest) :=
  h.read_object_of_takes (.cons (readMember_other hkey fields.blank s) (.nil _)) row rest

end Fields

end TeamCalendar.Json
