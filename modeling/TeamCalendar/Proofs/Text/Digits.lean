import Mathlib.Algebra.GroupWithZero.Nat
import TeamCalendar.Proofs.Text.Trim
import TeamCalendar.Text.Decimal
import TeamCalendar.Text.Hex

/-!
# Digits read back

A number can be read back from its digits, hexadecimal or decimal, whatever follows them that is no
digit.
-/

namespace TeamCalendar.Text

/-! ## Hexadecimal digits -/

@[simp]
theorem length_hexDigits (count n : Nat) : (hexDigits count n).length = count := by
  induction count generalizing n with
  | zero => rfl
  | succ count ih => rw [hexDigits, List.length_append, ih, List.length_singleton]

theorem exists_of_mem_hexDigits {count n : Nat} {c : Char} (h : c ∈ hexDigits count n) :
    ∃ d < 16, c = hexDigit d := by
  induction count generalizing n with
  | zero => cases h
  | succ count ih =>
    rw [hexDigits, List.mem_append, List.mem_singleton] at h
    rcases h with hearlier | hlast
    · exact ih hearlier
    · exact ⟨n % 16, Nat.mod_lt n (by decide), hlast⟩

/-- The number that is read is the one that was written, up to the digits that there are. -/
theorem ofHexDigits?_hexDigits (count n : Nat) :
    ofHexDigits? (hexDigits count n) = some (n % 16 ^ count) := by
  induction count generalizing n with
  | zero => simp [ofHexDigits?, hexDigits, Nat.mod_one]
  | succ count ih =>
    have hlast : hexValue? (hexDigit (n % 16)) = some (n % 16) :=
      hexValue?_hexDigit _ (Nat.mod_lt n (by decide))
    have hmod : 16 * (n / 16 % 16 ^ count) + n % 16 = n % 16 ^ (count + 1) := by
      rw [Nat.pow_succ', Nat.mod_mul, Nat.add_comm]
    have hfirst := ih (n / 16)
    rw [ofHexDigits?] at hfirst
    rw [ofHexDigits?, hexDigits, List.foldlM_append, hfirst]
    simp [hlast, hmod]

/-- The digits of bytes. -/
def hexBytes (bytes : List UInt8) : List Char :=
  bytes.flatMap hexByte

/-- Each byte has two digits. -/
theorem length_hexBytes (bytes : List UInt8) : (hexBytes bytes).length = 2 * bytes.length := by
  induction bytes with
  | nil => rfl
  | cons b bytes ih =>
    rw [hexBytes] at ih
    rw [hexBytes, List.flatMap_cons, List.length_append, ih, hexByte, length_hexDigits,
      List.length_cons]
    omega

theorem exists_of_mem_hexBytes {bytes : List UInt8} {c : Char} (h : c ∈ hexBytes bytes) :
    ∃ d < 16, c = hexDigit d := by
  obtain ⟨b, -, hc⟩ := List.mem_flatMap.1 h
  exact exists_of_mem_hexDigits hc

/-- Bytes are read back from their digits. -/
theorem ofHexBytes?_hexBytes (bytes : List UInt8) : ofHexBytes? (hexBytes bytes) = some bytes := by
  induction bytes with
  | nil => rfl
  | cons b bytes ih =>
    have hbyte := ofHexDigits?_hexDigits 2 b.toNat
    rw [Nat.mod_eq_of_lt (show b.toNat < 16 ^ 2 from b.toNat_lt)] at hbyte
    simp only [hexDigits, List.nil_append, List.cons_append] at hbyte
    rw [hexBytes] at ih
    rw [hexBytes, List.flatMap_cons, hexByte]
    simp only [hexDigits, List.nil_append, List.cons_append, ofHexBytes?, hbyte, ih]
    simp

/-! ## Decimal digits -/

theorem isDigit_of_isDigit {c : Char} (h : c.isDigit = true) : isDigit c = true := by
  rw [Char.isDigit_iff_toNat] at h
  simpa [isDigit, Char.le_def, UInt32.le_iff_toNat_le] using h

theorem not_isBlank_of_isDigit {c : Char} (h : isDigit c = true) : isBlank c = false := by
  simp only [isDigit, Bool.and_eq_true, decide_eq_true_eq, Char.le_def,
    UInt32.le_iff_toNat_le] at h
  change 48 ≤ c.toNat ∧ c.toNat ≤ 57 at h
  have hranges : ∀ range ∈ blankRanges, range.2 < 48 ∨ 57 < range.1 := by decide
  rw [isBlank, List.any_eq_false]
  intro range hrange
  have houtside := hranges range hrange
  simp only [Bool.and_eq_true, decide_eq_true_eq]
  omega

theorem digitValue?_digitChar : ∀ d < 10, digitValue? d.digitChar = some d := by
  decide

theorem ofDigits_append_singleton (cs : List Char) (c : Char) :
    ofDigits (cs ++ [c]) = 10 * ofDigits cs + (digitValue? c).getD 0 := by
  rw [ofDigits, List.foldl_append]
  rfl

theorem ofDigits_toDigits (n : Nat) : ofDigits (Nat.toDigits 10 n) = n := by
  induction n using Nat.strongRecOn with
  | ind n ih =>
    rw [Nat.toDigits_eq_if (by decide)]
    split
    · next hsmall =>
      have hvalue := digitValue?_digitChar n hsmall
      simp [ofDigits, hvalue]
    · next hlarge =>
      have hlast := digitValue?_digitChar (n % 10) (Nat.mod_lt n (by decide))
      rw [ofDigits_append_singleton, ih (n / 10) (by omega), hlast, Option.getD_some]
      omega

theorem ofDigits_replicate_append (count : Nat) (cs : List Char) :
    ofDigits (List.replicate count '0' ++ cs) = ofDigits cs := by
  induction count with
  | zero => rfl
  | succ count ih => exact ih

theorem ofDigits_paddedDigits (width n : Nat) : ofDigits (paddedDigits width n) = n := by
  rw [paddedDigits, ofDigits_replicate_append, ofDigits_toDigits]

theorem isDigit_of_mem_paddedDigits {width n : Nat} {c : Char} (h : c ∈ paddedDigits width n) :
    isDigit c = true := by
  rw [paddedDigits, List.mem_append, List.mem_replicate] at h
  rcases h with ⟨-, rfl⟩ | hdigit
  · rfl
  · exact isDigit_of_isDigit (Nat.isDigit_of_mem_toDigits (by decide) (by decide) hdigit)

theorem paddedDigits_ne_nil (width n : Nat) : paddedDigits width n ≠ [] := by
  simp [paddedDigits, Nat.toDigits_ne_nil]

theorem exists_paddedDigits_eq (width n : Nat) :
    ∃ c digits, paddedDigits width n = c :: digits ∧ isDigit c = true := by
  obtain ⟨c, digits, hpadded⟩ := List.exists_cons_of_ne_nil (paddedDigits_ne_nil width n)
  have hmem : c ∈ paddedDigits width n := by
    rw [hpadded]
    exact List.mem_cons_self
  exact ⟨c, digits, hpadded, isDigit_of_mem_paddedDigits hmem⟩

/-- A number that is small enough has just as many digits as are asked for. -/
theorem length_paddedDigits {width n : Nat} (hwidth : 0 < width) (hn : n < 10 ^ width) :
    (paddedDigits width n).length = width := by
  have hlength : (Nat.toDigits 10 n).length ≤ width :=
    (Nat.length_toDigits_le_iff (by decide) hwidth).2 hn
  rw [paddedDigits, List.length_append, List.length_replicate]
  omega

/-- What follows has no digit in front. -/
def NoDigitAhead (rest : List Char) : Prop :=
  ∀ c ∈ rest.head?, isDigit c = false

/-- Digits are taken up to where they end, or as many as may be. -/
theorem takeDigits_append {most : Nat} {digits rest : List Char}
    (hdigits : ∀ c ∈ digits, isDigit c = true) (hlength : digits.length ≤ most)
    (hstop : digits.length = most ∨ NoDigitAhead rest) :
    takeDigits most (digits ++ rest) = (digits, rest) := by
  induction digits generalizing most with
  | nil =>
    cases most with
    | zero => rfl
    | succ most =>
      have hahead : NoDigitAhead rest := hstop.resolve_left nofun
      cases rest with
      | nil => rfl
      | cons c rest =>
        have hc : isDigit c = false := hahead c rfl
        simp [takeDigits, hc]
  | cons d digits ih =>
    rw [List.forall_mem_cons] at hdigits
    cases most with
    | zero => cases hlength
    | succ most =>
      have htake := ih hdigits.2 (Nat.le_of_succ_le_succ hlength)
        (hstop.imp_left fun heq => Nat.succ.inj heq)
      rw [List.cons_append, takeDigits, if_pos hdigits.1, htake]

/-- A written number is read back. -/
theorem readNumber?_paddedDigits {most width n : Nat} {rest : List Char}
    (hlength : (paddedDigits width n).length ≤ most)
    (hstop : (paddedDigits width n).length = most ∨ NoDigitAhead rest) :
    readNumber? most (paddedDigits width n ++ rest) = some (n, rest) := by
  rw [readNumber?, takeDigits_append (fun _ => isDigit_of_mem_paddedDigits) hlength hstop]
  split
  · next hnone => exact absurd (congrArg Prod.fst hnone) (paddedDigits_ne_nil width n)
  · next hsome =>
    cases hsome
    rw [ofDigits_paddedDigits]

/-- No blanks are in front of a written number. -/
theorem trimStartChars_paddedDigits (width n : Nat) (rest : List Char) :
    trimStartChars (paddedDigits width n ++ rest) = paddedDigits width n ++ rest := by
  obtain ⟨d, digits, hpadded, hdigit⟩ := exists_paddedDigits_eq width n
  apply trimStartChars_eq_self
  intro c hc
  rw [hpadded] at hc
  cases hc
  exact not_isBlank_of_isDigit hdigit

end TeamCalendar.Text
