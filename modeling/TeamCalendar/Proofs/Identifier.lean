import TeamCalendar.Identifier
import TeamCalendar.Proofs.Text.Digits

/-!
# Identifiers read back

The written form of an identifier is the second of the four in which identifiers are read: neither
braces nor a scheme stand before it, and it is too long to be digits alone.
-/

namespace TeamCalendar.Id

variable {kind : IdKind}

theorem unhyphenate?_hyphenate (groups : List Nat) (cs : List Char)
    (hlength : cs.length = groups.sum) :
    unhyphenate? groups (hyphenate groups cs) = some cs := by
  induction groups generalizing cs with
  | nil =>
    rw [List.sum_nil, List.length_eq_zero_iff] at hlength
    subst hlength
    rfl
  | cons n groups ih =>
    cases groups with
    | nil =>
      rw [List.sum_cons, List.sum_nil, Nat.add_zero] at hlength
      rw [hyphenate, unhyphenate?, if_pos hlength]
    | cons m groups =>
      rw [List.sum_cons] at hlength
      have htake : (cs.take n).length = n := List.length_take_of_le (by omega)
      have hrest := ih (cs.drop n) (by rw [List.length_drop]; omega)
      simp [hyphenate, unhyphenate?, htake, hrest, List.drop_left', List.take_left']

theorem hyphenate_cons_cons (n m : Nat) (groups : List Nat) (cs : List Char) :
    hyphenate (n :: m :: groups) cs = cs.take n ++ '-' :: hyphenate (m :: groups) (cs.drop n) :=
  rfl

theorem length_hyphenate (groups : List Nat) (cs : List Char) (hlength : cs.length = groups.sum) :
    (hyphenate groups cs).length = cs.length + (groups.length - 1) := by
  induction groups generalizing cs with
  | nil => rfl
  | cons n groups ih =>
    cases groups with
    | nil => rfl
    | cons m groups =>
      rw [List.sum_cons] at hlength
      have htake : (cs.take n).length = n := List.length_take_of_le (by omega)
      have hrest := ih (cs.drop n) (by rw [List.length_drop]; omega)
      rw [hyphenate_cons_cons, List.length_append, List.length_cons, htake, hrest,
        List.length_drop]
      simp only [List.length_cons]
      omega

theorem length_digits (id : Id kind) : id.digits.length = 32 :=
  Text.length_hexDigits _ _

theorem ofDigits?_digits (id : Id kind) : ofDigits? id.digits = some id := by
  have hsmall : id.bits.toNat % 16 ^ 32 = id.bits.toNat := Nat.mod_eq_of_lt id.bits.isLt
  rw [ofDigits?, if_pos id.length_digits, digits, Text.ofHexDigits?_hexDigits, hsmall]
  simp

theorem exists_digits_eq (id : Id kind) : ∃ d < 16, ∃ rest, id.digits = Text.hexDigit d :: rest := by
  cases hdigits : id.digits with
  | nil => exact absurd id.length_digits (by simp [hdigits])
  | cons c rest =>
    have hmem : c ∈ Text.hexDigits 32 id.bits.toNat := by
      change c ∈ id.digits
      rw [hdigits]
      exact List.mem_cons_self
    obtain ⟨d, hd, rfl⟩ := Text.exists_of_mem_hexDigits hmem
    exact ⟨d, hd, rest, rfl⟩

/-- The written form starts with a digit. -/
theorem exists_textChars_eq (id : Id kind) :
    ∃ d < 16, ∃ rest, id.textChars = Text.hexDigit d :: rest := by
  obtain ⟨d, hd, rest, hdigits⟩ := id.exists_digits_eq
  have htext : id.textChars = hyphenate groups (Text.hexDigit d :: rest) := by
    rw [textChars, hdigits]
  exact ⟨d, hd, _, htext⟩

theorem length_textChars (id : Id kind) : id.textChars.length = 36 := by
  rw [textChars, length_hyphenate groups _ id.length_digits, id.length_digits]
  rfl

/-- A digit, in either case, starts neither braces nor a scheme. -/
theorem hexDigit_ne : ∀ d < 16, Text.hexDigit d ≠ '\x7b' ∧ Text.hexDigit d ≠ 'u' ∧
    (Text.hexDigit d).toLower = Text.hexDigit d := by
  decide

/-- What starts with a digit is read without braces and without a scheme. -/
theorem ofChars?_digit {c : Char} {d : Nat} (hd : d < 16) (hc : c.toLower = Text.hexDigit d)
    (rest : List Char) :
    (ofChars? (c :: rest) : Option (Id kind)) =
      (ofDigits? (c :: rest)).or (ofHyphenated? (c :: rest)) := by
  obtain ⟨hbrace, hscheme, -⟩ := hexDigit_ne d hd
  rw [← hc] at hbrace hscheme
  have hplain : ¬ ((c :: rest).take scheme.length).map Char.toLower = scheme :=
    fun heq => hscheme (List.cons.inj heq).1
  rw [ofChars?, if_neg hplain]
  rintro rest' heq
  rw [(List.cons.inj heq).1] at hbrace
  exact hbrace rfl

theorem ofHyphenated?_textChars (id : Id kind) : ofHyphenated? id.textChars = some id := by
  rw [ofHyphenated?, textChars, unhyphenate?_hyphenate groups _ id.length_digits,
    Option.bind_some, ofDigits?_digits]

/-- An identifier is read back from its written form. -/
theorem parse?_text (id : Id kind) : parse? id.text = some id := by
  have hdigits : (ofDigits? id.textChars : Option (Id kind)) = none := by
    rw [ofDigits?, id.length_textChars, if_neg (by decide)]
  obtain ⟨d, hd, rest, htext⟩ := id.exists_textChars_eq
  have hread : (ofChars? id.textChars : Option (Id kind)) =
      (ofDigits? id.textChars).or (ofHyphenated? id.textChars) := by
    rw [htext]
    exact ofChars?_digit hd (hexDigit_ne d hd).2.2 rest
  rw [parse?, text, String.toList_ofList, hread, hdigits, ofHyphenated?_textChars]
  rfl

end TeamCalendar.Id
