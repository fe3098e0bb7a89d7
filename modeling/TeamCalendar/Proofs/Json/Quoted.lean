import TeamCalendar.Json.Quoted
import TeamCalendar.Proofs.Json.Reader
import TeamCalendar.Proofs.Text.Digits

/-!
# Quoted texts read back

A text is read back from its quoted form: what had to be escaped is resolved, and everything else
stands for itself.
-/

namespace TeamCalendar.Json

open Reader

/-! ## One step -/

/-- One step of reading a quoted text. -/
def quotedStep (read : List UInt8) : Reader (Progress (List UInt8) (List UInt8)) := do
  let b ← next
  if b = quotationMark then
    pure (.done read.reverse)
  else if b = backslash then
    let bytes ← readEscape
    pure (.again (bytes.reverse ++ read))
  else if b < 0x20 then
    fail .malformed
  else
    pure (.again (b :: read))

theorem readQuotedBytes_eq : readQuotedBytes = repeated quotedStep [] :=
  rfl

variable {read rest tail value : List UInt8}

theorem quotedStep_close (read rest : List UInt8) :
    quotedStep read (quotationMark :: rest) = .ok (.done read.reverse, rest) :=
  rfl

/-- A byte that stands for itself. -/
structure Plain (b : UInt8) : Prop where
  ne_quotationMark : b ≠ quotationMark
  ne_backslash : b ≠ backslash
  not_control : ¬ b < 0x20

theorem quotedStep_plain {b : UInt8} (hb : Plain b) (read rest : List UInt8) :
    quotedStep read (b :: rest) = .ok (.again (b :: read), rest) := by
  have hnext : next (b :: rest) = .ok (b, rest) := rfl
  rw [quotedStep, bind_ok hnext, if_neg hb.ne_quotationMark, if_neg hb.ne_backslash,
    if_neg hb.not_control]
  rfl

theorem quotedStep_escape {bytes : List UInt8} (hescape : readEscape tail = .ok (bytes, rest)) :
    quotedStep read (backslash :: tail) = .ok (.again (bytes.reverse ++ read), rest) := by
  have hnext : next (backslash :: tail) = .ok (backslash, tail) := rfl
  rw [quotedStep, bind_ok hnext, if_neg (by decide), if_pos rfl, bind_ok hescape]
  rfl

/-! ## Escapes -/

/-- A unit is read back from its four digits. -/
theorem readUnit_hexDigits {n : Nat} (hn : n < 16 ^ 4) (rest : List UInt8) :
    readUnit (Text.bytesOfChars (Text.hexDigits 4 n) ++ rest) = .ok (n, rest) := by
  have hdigit (m : Nat) := Text.utf8EncodeChar_hexDigit (m % 16) (Nat.mod_lt m (by decide))
  have hread := Text.ofHexDigits?_hexDigits 4 n
  rw [Nat.mod_eq_of_lt hn] at hread
  simp only [Text.hexDigits, List.nil_append, List.cons_append] at hread ⊢
  simp only [Text.bytesOfChars_cons, Text.bytesOfChars_nil, (hdigit _).1, List.cons_append,
    List.nil_append, readUnit, List.map_cons, List.map_nil, (hdigit _).2, hread]

/-- A control character is read back from its escape. -/
theorem readEscape_control {c : Char} (hc : c.toNat < 0x20) (rest : List UInt8) :
    readEscape (unitEscape :: (Text.bytesOfChars (Text.hexDigits 4 c.toNat) ++ rest)) =
      .ok (String.utf8EncodeChar c, rest) := by
  have hunit := readUnit_hexDigits (show c.toNat < 16 ^ 4 by omega) rest
  have hnext (input : List UInt8) : next (unitEscape :: input) = .ok (unitEscape, input) := rfl
  have htrailing : isTrailing c.toNat = false := by
    simp only [isTrailing, Bool.and_eq_false_iff, decide_eq_false_iff_not]
    omega
  have hleading : isLeading c.toNat = false := by
    simp only [isLeading, Bool.and_eq_false_iff, decide_eq_false_iff_not]
    omega
  have hcode : readCodePoint (Text.bytesOfChars (Text.hexDigits 4 c.toNat) ++ rest) =
      .ok (c.toNat, rest) := by
    rw [readCodePoint, bind_ok hunit, htrailing, hleading]
    rfl
  have hbytes : Text.bytesOf (String.singleton (Char.ofNat c.toNat)) =
      String.utf8EncodeChar c := by
    rw [Char.ofNat_toNat, Text.bytesOf_eq_flatMap, String.toList_singleton, List.flatMap_singleton]
  rw [readEscape, bind_ok (hnext _), if_pos rfl, bind_ok hcode, hbytes]
  rfl

theorem readEscape_short {b stands : UInt8} (hother : b ≠ unitEscape)
    (hlookup : shortEscapes.lookup b = some stands) (rest : List UInt8) :
    readEscape (b :: rest) = .ok ([stands], rest) := by
  have hnext : next (b :: rest) = .ok (b, rest) := rfl
  rw [readEscape, bind_ok hnext, if_neg hother, hlookup]
  rfl

/-! ## Characters -/

/-- What is not escaped stands for itself. -/
theorem plain_of_mem_utf8EncodeChar {c : Char} (hquotation : c ≠ '"') (hbackslash : c ≠ '\\')
    (hcontrol : ¬ c.toNat < 0x20) {b : UInt8} (hb : b ∈ String.utf8EncodeChar c) : Plain b := by
  cases hlatin : Text.isBasicLatin c with
  | false =>
    have hlarge := UInt8.le_iff_toNat_le.1 (Text.le_of_mem_utf8EncodeChar hlatin hb)
    change 128 ≤ b.toNat at hlarge
    refine ⟨?_, ?_, ?_⟩
    · rintro rfl
      cases Nat.not_lt.2 hlarge (by decide)
    · rintro rfl
      cases Nat.not_lt.2 hlarge (by decide)
    · rw [UInt8.lt_iff_toNat_lt]
      change ¬ b.toNat < 32
      omega
  | true =>
    have hsmall : c.toNat < 128 := of_decide_eq_true hlatin
    rw [Text.utf8EncodeChar_of_isBasicLatin hlatin, List.mem_singleton] at hb
    have hnat : b.toNat = c.toNat := by
      rw [hb, UInt8.toNat_ofNat_of_lt' (by change c.toNat < 256; omega)]
    refine ⟨?_, ?_, ?_⟩
    · rintro rfl
      exact hquotation (Char.toNat_inj.1 hnat.symm)
    · rintro rfl
      exact hbackslash (Char.toNat_inj.1 hnat.symm)
    · rw [UInt8.lt_iff_toNat_lt, hnat]
      exact hcontrol

/-- A step goes through a quoted text: it takes a byte that stands for itself, or an escape, and keeps
the bytes that are meant in its own way. -/
structure Scans {σ α : Type} (step : σ → Reader (Progress σ α)) (keep : σ → UInt8 → σ) : Prop where
  plain {b : UInt8} (hb : Plain b) (state : σ) (rest : List UInt8) :
    step state (b :: rest) = .ok (.again (keep state b), rest)
  short {b stands : UInt8} (hother : b ≠ unitEscape) (hlookup : shortEscapes.lookup b = some stands)
    (state : σ) (rest : List UInt8) :
    step state (backslash :: b :: rest) = .ok (.again (keep state stands), rest)
  control {c : Char} (hc : c.toNat < 0x20) (state : σ) (rest : List UInt8) :
    step state
        (backslash :: unitEscape :: (Text.bytesOfChars (Text.hexDigits 4 c.toNat) ++ rest)) =
      .ok (.again ((String.utf8EncodeChar c).foldl keep state), rest)

namespace Scans

variable {σ α : Type} {step : σ → Reader (Progress σ α)} {keep : σ → UInt8 → σ} {state : σ}
  {result : α}

/-- Bytes that stand for themselves are taken one after the other. -/
theorem repeats_plain (h : Scans step keep) {plain : List UInt8} (hplain : ∀ b ∈ plain, Plain b)
    (hrest : Repeats step (plain.foldl keep state) tail result rest) :
    Repeats step state (plain ++ tail) result rest := by
  induction plain generalizing state with
  | nil => exact hrest
  | cons b plain ih =>
    rw [List.forall_mem_cons] at hplain
    refine .again (h.plain hplain.1 state (plain ++ tail)) ?_ (ih hplain.2 hrest)
    rw [List.cons_append, List.length_cons]
    omega

theorem repeats_short (h : Scans step keep) (b stands : UInt8) (hother : b ≠ unitEscape)
    (hlookup : shortEscapes.lookup b = some stands)
    (hrest : Repeats step (keep state stands) tail result rest) :
    Repeats step state (backslash :: b :: tail) result rest := by
  refine .again (h.short hother hlookup state tail) ?_ hrest
  simp only [List.length_cons]
  omega

/-- A character is taken, escaped or not. -/
theorem repeats_escapeChar (h : Scans step keep) (c : Char)
    (hrest : Repeats step ((String.utf8EncodeChar c).foldl keep state) tail result rest) :
    Repeats step state (Text.bytesOfChars (escapeChar c) ++ tail) result rest := by
  unfold escapeChar
  split
  · exact h.repeats_short quotationMark quotationMark (by decide) rfl hrest
  · exact h.repeats_short backslash backslash (by decide) rfl hrest
  · exact h.repeats_short 0x6e 0x0a (by decide) rfl hrest
  · exact h.repeats_short 0x72 0x0d (by decide) rfl hrest
  · exact h.repeats_short 0x74 0x09 (by decide) rfl hrest
  · exact h.repeats_short 0x62 0x08 (by decide) rfl hrest
  · exact h.repeats_short 0x66 0x0c (by decide) rfl hrest
  · next hquotation hbackslash _ _ _ _ _ =>
    split
    · next hcontrol =>
      have hless : tail.length <
          (backslash :: unitEscape ::
            (Text.bytesOfChars (Text.hexDigits 4 c.toNat) ++ tail)).length := by
        simp only [List.length_cons, List.length_append]
        omega
      exact .again (h.control hcontrol state tail) hless hrest
    · next hcontrol =>
      rw [Text.bytesOfChars_cons, Text.bytesOfChars_nil, List.append_nil]
      exact h.repeats_plain
        (fun b => plain_of_mem_utf8EncodeChar hquotation hbackslash hcontrol) hrest

theorem repeats_chars (h : Scans step keep) (cs : List Char)
    (hrest : Repeats step ((Text.bytesOfChars cs).foldl keep state) tail result rest) :
    Repeats step state (Text.bytesOfChars (cs.flatMap escapeChar) ++ tail) result rest := by
  induction cs generalizing state with
  | nil => exact hrest
  | cons c cs ih =>
    rw [Text.bytesOfChars_cons, List.foldl_append] at hrest
    rw [List.flatMap_cons, Text.bytesOfChars_append, List.append_assoc]
    exact h.repeats_escapeChar c (ih hrest)

end Scans

theorem foldl_cons_eq (bytes read : List UInt8) :
    bytes.foldl (fun read b => b :: read) read = bytes.reverse ++ read := by
  simp [List.foldl_flip_cons_eq_append]

/-- Reading keeps the bytes backwards. -/
theorem scans_quotedStep : Scans quotedStep fun read b => b :: read where
  plain := quotedStep_plain
  short hother hlookup _ rest := quotedStep_escape (readEscape_short hother hlookup rest)
  control hc _ rest := by
    rw [quotedStep_escape (readEscape_control hc rest), foldl_cons_eq]

/-! ## Texts -/

theorem readQuoted_chars (s : String) (rest : List UInt8) :
    readQuoted (Text.bytesOfChars (s.toList.flatMap escapeChar) ++ quotationMark :: rest) =
      .ok (s, rest) := by
  have hbytes : readQuotedBytes
      (Text.bytesOfChars (s.toList.flatMap escapeChar) ++ quotationMark :: rest) =
      .ok (Text.bytesOf s, rest) := by
    have hchars := scans_quotedStep.repeats_chars s.toList
      (.done (quotedStep_close ((Text.bytesOfChars s.toList).foldl _ []) rest))
    rw [foldl_cons_eq, List.append_nil, List.reverse_reverse] at hchars
    rw [readQuotedBytes_eq, hchars.repeated_eq, Text.bytesOf_eq_flatMap]
    rfl
  rw [readQuoted, bind_ok hbytes, Text.ofBytes?_bytesOf]
  rfl

/-- A text is read back from its quoted form, whatever follows. -/
theorem readKey_text (s : String) (rest : List UInt8) :
    readKey (bytes (.text s) ++ rest) = .ok (s, rest) := by
  have hquoted := readQuoted_chars s rest
  rw [bytes_text, List.cons_append, List.append_assoc, List.singleton_append]
  exact hquoted

end TeamCalendar.Json
