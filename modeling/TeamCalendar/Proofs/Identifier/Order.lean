import TeamCalendar.Proofs.Identifier

/-!
# Identifiers in order

Identifiers are ordered as numbers, and this is the order of their written forms: all of them have
the same length, and their digits are in the order of what they stand for.
-/

namespace TeamCalendar

namespace Text

variable {cs ds : List Char}

theorem hexDigit_lt : ∀ n < 16, ∀ m < n, hexDigit m < hexDigit n := by
  decide

/-- Texts of the same length are told apart before what follows them is looked at. -/
theorem lex_append (h : List.Lex (· < ·) cs ds) (hlength : cs.length = ds.length)
    (rest rest' : List Char) : List.Lex (· < ·) (cs ++ rest) (ds ++ rest') := by
  induction h with
  | nil => exact absurd hlength nofun
  | rel hlt => exact .rel hlt
  | cons _ ih => exact .cons (ih (Nat.succ.inj hlength))

/-- The first parts of two texts tell them apart, or else the parts are equal and the rest does. -/
theorem lex_take_or_drop (h : List.Lex (· < ·) cs ds) (hlength : cs.length = ds.length) (n : Nat) :
    List.Lex (· < ·) (cs.take n) (ds.take n) ∨
      cs.take n = ds.take n ∧ List.Lex (· < ·) (cs.drop n) (ds.drop n) := by
  induction h generalizing n with
  | nil => exact absurd hlength nofun
  | @rel c cs d ds hlt =>
    cases n with
    | zero => exact Or.inr ⟨rfl, .rel hlt⟩
    | succ n => exact Or.inl (.rel hlt)
  | @cons c cs ds hrest ih =>
    cases n with
    | zero => exact Or.inr ⟨rfl, .cons hrest⟩
    | succ n =>
      rcases ih (Nat.succ.inj hlength) n with htake | ⟨htake, hdrop⟩
      · exact Or.inl (.cons htake)
      · exact Or.inr ⟨congrArg (c :: ·) htake, hdrop⟩

/-- The digits of a number come before those of a greater one. -/
theorem lex_hexDigits {count m n : Nat} (hlt : m < n) (hn : n < 16 ^ count) :
    List.Lex (· < ·) (hexDigits count m) (hexDigits count n) := by
  induction count generalizing m n with
  | zero => omega
  | succ count ih =>
    rw [hexDigits, hexDigits]
    by_cases hupper : m / 16 < n / 16
    · have hsmall : n / 16 < 16 ^ count := by omega
      refine lex_append (ih hupper hsmall) ?_ _ _
      rw [length_hexDigits, length_hexDigits]
    · have heq : m / 16 = n / 16 := by omega
      rw [heq]
      have hlower := hexDigit_lt (n % 16) (by omega) (m % 16) (by omega)
      exact List.append_left_lt (.rel hlower)

end Text

namespace Id

variable {kind : IdKind} {a b : Id kind}

theorem lex_hyphenate (groups : List Nat) {cs ds : List Char} (h : List.Lex (· < ·) cs ds)
    (hlength : cs.length = ds.length) :
    List.Lex (· < ·) (hyphenate groups cs) (hyphenate groups ds) := by
  induction groups generalizing cs ds with
  | nil => exact h
  | cons n groups ih =>
    cases groups with
    | nil => exact h
    | cons m groups =>
      rw [hyphenate_cons_cons, hyphenate_cons_cons]
      rcases Text.lex_take_or_drop h hlength n with htake | ⟨htake, hdrop⟩
      · refine Text.lex_append htake ?_ _ _
        rw [List.length_take, List.length_take, hlength]
      · rw [htake]
        refine List.append_left_lt (.cons (ih hdrop ?_))
        rw [List.length_drop, List.length_drop, hlength]

/-- Written forms are in the order of the identifiers. -/
theorem text_lt (h : a.bits < b.bits) : a.text < b.text := by
  rw [String.lt_iff, text, text, String.toList_ofList, String.toList_ofList]
  refine lex_hyphenate groups (Text.lex_hexDigits h b.bits.isLt) ?_
  exact a.length_digits.trans b.length_digits.symm

theorem eq_of_toNat_eq (h : a.bits.toNat = b.bits.toNat) : a = b := by
  cases a
  cases b
  exact congrArg mk (BitVec.eq_of_toNat_eq h)

theorem lt_of_le_of_ne (hle : a.bits ≤ b.bits) (hne : a ≠ b) : a.bits < b.bits := by
  have hdiffer : a.bits.toNat ≠ b.bits.toNat := fun heq => hne (eq_of_toNat_eq heq)
  rw [BitVec.le_def] at hle
  rw [BitVec.lt_def]
  omega

theorem compare_eq_lt_iff : compare a b = .lt ↔ a.bits < b.bits := by
  rw [compare_eq]
  exact compareOfLessAndEq_eq_lt

/-- Identifiers are compared as numbers. -/
theorem isLE_compare_iff : (compare a b).isLE ↔ a.bits ≤ b.bits := by
  rw [compare_eq]
  exact isLE_compareOfLessAndEq BitVec.le_antisymm BitVec.not_le BitVec.le_total

end Id

end TeamCalendar
