import Mathlib.Data.List.Induction
import TeamCalendar.Proofs.Identifier
import TeamCalendar.Proofs.Text.Words

/-!
# Spellings of identifiers

An identifier has four spellings, and is read from each of them with its letters in either case.
Nothing else is read as an identifier.

* `Text.ofHexDigits?_eq_some_iff` says which digits stand for a number, `Id.unhyphenate?_eq_some_iff`
  where hyphens have to stand.
* `Id.parse?_eq_some_iff` says which texts are read as an identifier.
-/

namespace TeamCalendar

namespace Text

theorem toNat_hexDigit : ∀ n < 16, (hexDigit n).toNat = if n < 10 then 0x30 + n else 0x57 + n := by
  decide

theorem hexValue?_eq (c : Char) :
    hexValue? c =
      if 0x30 ≤ c.toNat ∧ c.toNat ≤ 0x39 then some (c.toNat - 0x30)
      else if 0x61 ≤ c.toNat ∧ c.toNat ≤ 0x66 then some (c.toNat - 0x57)
      else if 0x41 ≤ c.toNat ∧ c.toNat ≤ 0x46 then some (c.toNat - 0x37)
      else none := by
  simp only [hexValue?, Char.le_def, UInt32.le_iff_toNat_le]
  rfl

/-- A character is a digit if it is one in lower case. -/
theorem hexValue?_eq_some_iff {c : Char} {n : Nat} :
    hexValue? c = some n ↔ n < 16 ∧ c.toLower = hexDigit n := by
  have hdigit (hn : n < 16) : c.toLower = hexDigit n ↔
      (if 65 ≤ c.toNat ∧ c.toNat ≤ 90 then c.toNat + 32 else c.toNat) =
        if n < 10 then 0x30 + n else 0x57 + n := by
    rw [← Char.toNat_inj, toNat_toLower, toNat_hexDigit n hn]
  rw [hexValue?_eq]
  constructor
  · intro h
    have hn : n < 16 := by grind
    refine ⟨hn, (hdigit hn).2 ?_⟩
    grind
  · rintro ⟨hn, h⟩
    rw [hdigit hn] at h
    grind

/-- Digits stand for a number if they are, in lower case, those of the number. -/
theorem ofHexDigits?_eq_some_iff {cs : List Char} {n : Nat} :
    ofHexDigits? cs = some n ↔
      cs.map Char.toLower = hexDigits cs.length n ∧ n < 16 ^ cs.length := by
  induction cs using List.reverseRecOn generalizing n with
  | nil =>
    simp [ofHexDigits?, hexDigits]
    omega
  | append_singleton cs c ih =>
    have hread : ofHexDigits? (cs ++ [c]) =
        (ofHexDigits? cs).bind fun m => (hexValue? c).map (16 * m + ·) := by
      simp only [ofHexDigits?, List.foldlM_append, List.foldlM_cons, List.foldlM_nil, bind_pure]
      rfl
    rw [hread, List.map_append, List.length_append, List.length_singleton, hexDigits,
      List.map_singleton, Option.bind_eq_some_iff]
    constructor
    · rintro ⟨m, hm, hn⟩
      obtain ⟨d, hd, rfl⟩ := Option.map_eq_some_iff.1 hn
      obtain ⟨hcs, hsmall⟩ := ih.1 hm
      obtain ⟨hdigit, hc⟩ := hexValue?_eq_some_iff.1 hd
      have hupper : (16 * m + d) / 16 = m := by omega
      have hlower : (16 * m + d) % 16 = d := by omega
      rw [hupper, hlower, hcs, hc, Nat.pow_succ]
      exact ⟨rfl, by omega⟩
    · rintro ⟨hcs, hsmall⟩
      obtain ⟨hcs, hc⟩ := List.append_inj' hcs rfl
      rw [Nat.pow_succ] at hsmall
      refine ⟨n / 16, ih.2 ⟨hcs, by omega⟩, ?_⟩
      have hlast : hexValue? c = some (n % 16) :=
        hexValue?_eq_some_iff.2 ⟨by omega, (List.cons.inj hc).1⟩
      rw [hlast, Option.map_some, Nat.div_add_mod]

end Text

namespace Id

variable {kind : IdKind} {id : Id kind} {cs ds : List Char}

/-! ## Digits and hyphens -/

/-- Digits are read if they are, in lower case, those of the identifier. -/
theorem ofDigits?_eq_some_iff : ofDigits? cs = some id ↔ cs.map Char.toLower = id.digits := by
  rw [ofDigits?, digits]
  constructor
  · intro h
    obtain ⟨hlength, hread⟩ := Option.ite_none_right_eq_some.1 h
    obtain ⟨n, hn, rfl⟩ := Option.map_eq_some_iff.1 hread
    obtain ⟨hcs, hsmall⟩ := Text.ofHexDigits?_eq_some_iff.1 hn
    rw [hlength] at hcs hsmall
    have hword : n < 2 ^ 128 := hsmall
    rw [hcs, BitVec.toNat_ofNat, Nat.mod_eq_of_lt hword]
  · intro hcs
    have hlength : cs.length = 32 := by
      rw [← List.length_map Char.toLower, hcs, Text.length_hexDigits]
    have hread : Text.ofHexDigits? cs = some id.bits.toNat := by
      rw [Text.ofHexDigits?_eq_some_iff, hlength]
      exact ⟨hcs, id.bits.isLt⟩
    rw [if_pos hlength, hread, Option.map_some, BitVec.ofNat_toNat, BitVec.setWidth_eq]

theorem unhyphenate?_cons_cons (n m : Nat) (groups : List Nat) (cs : List Char) :
    unhyphenate? (n :: m :: groups) cs =
      match cs.drop n with
      | '-' :: rest => (unhyphenate? (m :: groups) rest).map (cs.take n ++ ·)
      | _ => none :=
  rfl

/-- What is left without hyphens had them between its groups. -/
theorem eq_hyphenate_of_unhyphenate? {groups : List Nat} (h : unhyphenate? groups cs = some ds) :
    cs = hyphenate groups ds ∧ ds.length = groups.sum := by
  induction groups generalizing cs ds with
  | nil =>
    obtain ⟨hempty, heq⟩ := Option.ite_none_right_eq_some.1 h
    cases heq
    exact ⟨List.isEmpty_iff.1 hempty, rfl⟩
  | cons n groups ih =>
    cases groups with
    | nil =>
      obtain ⟨hlength, heq⟩ := Option.ite_none_right_eq_some.1 h
      cases heq
      exact ⟨rfl, hlength⟩
    | cons m groups =>
      rw [unhyphenate?_cons_cons] at h
      split at h
      · next rest hdrop =>
        obtain ⟨es, hes, rfl⟩ := Option.map_eq_some_iff.1 h
        obtain ⟨hrest, hlength⟩ := ih hes
        have htake : (cs.take n).length = n := by
          have hlong : (cs.drop n).length = rest.length + 1 := by rw [hdrop, List.length_cons]
          rw [List.length_drop] at hlong
          exact List.length_take_of_le (by omega)
        constructor
        · rw [hyphenate_cons_cons, List.take_left' htake, List.drop_left' htake, ← hrest, ← hdrop,
            List.take_append_drop]
        · rw [List.length_append, htake, hlength]
          exact List.sum_cons.symm
      · cases h

/-- Hyphens stand in the same places whatever happens to the other characters. -/
theorem unhyphenate?_map {f : Char → Char} (hf : ∀ c, f c = '-' ↔ c = '-') (groups : List Nat)
    (cs : List Char) :
    unhyphenate? groups (cs.map f) = (unhyphenate? groups cs).map (List.map f) := by
  induction groups generalizing cs with
  | nil => cases cs <;> rfl
  | cons n groups ih =>
    cases groups with
    | nil =>
      rw [unhyphenate?, unhyphenate?, List.length_map]
      split <;> rfl
    | cons m groups =>
      rw [unhyphenate?_cons_cons, unhyphenate?_cons_cons, ← List.map_drop, ← List.map_take]
      cases hdrop : cs.drop n with
      | nil => rfl
      | cons c rest =>
        rw [List.map_cons]
        by_cases hc : c = '-'
        · subst hc
          simp only [(hf '-').2 rfl, ih, Option.map_map]
          cases unhyphenate? (m :: groups) rest <;> simp
        · have hfc : f c ≠ '-' := fun heq => hc ((hf c).1 heq)
          split
          · next heq => exact absurd (List.cons.inj heq).1 hfc
          · split
            · next heq => exact absurd (List.cons.inj heq).1 hc
            · rfl

/-- Only the character itself is in lower case one that is no letter. -/
theorem toLower_eq_iff {d : Char} (hd : d.toNat < 65 ∨ 122 < d.toNat) (c : Char) :
    c.toLower = d ↔ c = d := by
  rw [← Char.toNat_inj, ← Char.toNat_inj, Text.toNat_toLower]
  split <;> omega

/-- Digits with hyphens are read if they are, in lower case, the written form. -/
theorem ofHyphenated?_eq_some_iff :
    ofHyphenated? cs = some id ↔ cs.map Char.toLower = id.textChars := by
  have hmap := unhyphenate?_map (toLower_eq_iff (by decide)) groups cs
  rw [ofHyphenated?, Option.bind_eq_some_iff]
  constructor
  · rintro ⟨ds, hds, hid⟩
    rw [hds, Option.map_some, ofDigits?_eq_some_iff.1 hid] at hmap
    exact (eq_hyphenate_of_unhyphenate? hmap).1
  · intro htext
    rw [htext, textChars, unhyphenate?_hyphenate groups _ id.length_digits] at hmap
    obtain ⟨ds, hds, hdigits⟩ := Option.map_eq_some_iff.1 hmap.symm
    exact ⟨ds, hds, ofDigits?_eq_some_iff.2 hdigits⟩

/-! ## The four spellings -/

/-- An identifier is read from its digits, from its written form, from the latter in braces, and from
the latter after the scheme. -/
theorem ofChars?_eq_some_iff :
    ofChars? cs = some id ↔
      cs.map Char.toLower = id.digits ∨ cs.map Char.toLower = id.textChars ∨
        cs.map Char.toLower = '\x7b' :: (id.textChars ++ ['\x7d']) ∨
        cs.map Char.toLower = scheme ++ id.textChars := by
  constructor
  · intro h
    unfold ofChars? at h
    split at h
    · next rest =>
      obtain ⟨hclosed, hread⟩ := Option.ite_none_right_eq_some.1 h
      obtain ⟨inner, rfl⟩ := List.getLast?_eq_some_iff.1 hclosed
      rw [List.dropLast_concat] at hread
      rw [List.map_cons, List.map_append, ofHyphenated?_eq_some_iff.1 hread]
      exact Or.inr (Or.inr (Or.inl rfl))
    · split at h
      · next hscheme =>
        rw [← List.take_append_drop scheme.length cs, List.map_append, hscheme,
          ofHyphenated?_eq_some_iff.1 h]
        exact Or.inr (Or.inr (Or.inr rfl))
      · rcases Option.or_eq_some_iff.1 h with hdigits | ⟨-, htext⟩
        · exact Or.inl (ofDigits?_eq_some_iff.1 hdigits)
        · exact Or.inr (Or.inl (ofHyphenated?_eq_some_iff.1 htext))
  · rintro (hdigits | htext | hbraces | hscheme)
    · obtain ⟨d, hd, digits, hstart⟩ := id.exists_digits_eq
      obtain ⟨c, rest, rfl, hc, -⟩ := List.map_eq_cons_iff.1 (hdigits.trans hstart)
      rw [ofChars?_digit hd hc, ofDigits?_eq_some_iff.2 hdigits, Option.some_or]
    · obtain ⟨d, hd, digits, hstart⟩ := id.exists_textChars_eq
      obtain ⟨c, rest, rfl, hc, -⟩ := List.map_eq_cons_iff.1 (htext.trans hstart)
      have hlength : (c :: rest).length = 36 := by
        rw [← List.length_map Char.toLower, htext, id.length_textChars]
      have hdigits : (ofDigits? (c :: rest) : Option (Id kind)) = none := by
        rw [ofDigits?, hlength, if_neg (by decide)]
      rw [ofChars?_digit hd hc, hdigits, ofHyphenated?_eq_some_iff.2 htext, Option.none_or]
    · obtain ⟨c, rest, rfl, hc, hrest⟩ := List.map_eq_cons_iff.1 hbraces
      obtain ⟨inner, close, rfl, hinner, hclose⟩ := List.map_eq_append_iff.1 hrest
      obtain ⟨d, tail, rfl, hd, htail⟩ := List.map_eq_cons_iff.1 hclose
      obtain rfl := List.map_eq_nil_iff.1 htail
      obtain rfl := (toLower_eq_iff (by decide) c).1 hc
      obtain rfl := (toLower_eq_iff (by decide) d).1 hd
      rw [ofChars?, if_pos List.getLast?_concat, List.dropLast_concat]
      exact ofHyphenated?_eq_some_iff.2 hinner
    · obtain ⟨start, rest, rfl, hstart, hrest⟩ := List.map_eq_append_iff.1 hscheme
      have hlength : start.length = scheme.length := by
        rw [← hstart, List.length_map]
      have htake : ((start ++ rest).take scheme.length).map Char.toLower = scheme := by
        rw [List.take_left' hlength, hstart]
      rw [ofChars?, if_pos htake, List.drop_left' hlength]
      · exact ofHyphenated?_eq_some_iff.2 hrest
      · intro tail heq
        rw [heq] at htake
        cases htake

/-- The spellings of an identifier, in lower case: the digits alone, the digits with hyphens, and the
latter in braces or as a name in a scheme. -/
def spellings (id : Id kind) : List String :=
  [String.ofList id.digits, id.text, "\x7b" ++ id.text ++ "\x7d", "urn:uuid:" ++ id.text]

/-- The text is a spelling of the identifier, up to the case of its letters. -/
def IsSpelt (id : Id kind) (s : String) : Prop :=
  ∃ spelling ∈ id.spellings, Text.SameLetters s spelling

instance (id : Id kind) (s : String) : Decidable (id.IsSpelt s) :=
  List.decidableBEx _ _

/-- The texts that are read as an identifier are its spellings. -/
theorem parse?_eq_some_iff {s : String} : parse? s = some id ↔ id.IsSpelt s := by
  have hdigits := ofDigits?_eq_some_iff.1 id.ofDigits?_digits
  have htext := ofHyphenated?_eq_some_iff.1 id.ofHyphenated?_textChars
  rw [parse?, ofChars?_eq_some_iff]
  simp [IsSpelt, spellings, Text.SameLetters, text, hdigits, htext, scheme]

/-! ## Blanks around a spelling -/

theorem mem_hyphenate {groups : List Nat} {c : Char} (h : c ∈ hyphenate groups cs) :
    c = '-' ∨ c ∈ cs := by
  induction groups generalizing cs with
  | nil => exact Or.inr h
  | cons n groups ih =>
    cases groups with
    | nil => exact Or.inr h
    | cons m groups =>
      rw [hyphenate_cons_cons, List.mem_append, List.mem_cons] at h
      rcases h with htake | rfl | hrest
      · exact Or.inr (List.mem_of_mem_take htake)
      · exact Or.inl rfl
      · exact (ih hrest).imp_right List.mem_of_mem_drop

theorem isBlank_digits {c : Char} (hc : c ∈ id.digits) : Text.isBlank c = false := by
  have hdigit : ∀ d < 16, Text.isBlank (Text.hexDigit d) = false := by decide
  obtain ⟨d, hd, rfl⟩ := Text.exists_of_mem_hexDigits hc
  exact hdigit d hd

theorem isBlank_textChars {c : Char} (hc : c ∈ id.textChars) : Text.isBlank c = false := by
  rcases mem_hyphenate hc with rfl | hdigit
  · rfl
  · exact isBlank_digits hdigit

/-- No text is read as an identifier that has a blank character. -/
theorem isBlank_of_parse? {s : String} (h : parse? s = some id) :
    ∀ c ∈ s.toList, Text.isBlank c = false := by
  intro c hc
  have hlower : c.toLower ∈ s.toList.map Char.toLower := List.mem_map_of_mem hc
  rw [← Text.isBlank_toLower]
  rcases ofChars?_eq_some_iff.1 h with hread | hread | hread | hread
  · rw [hread] at hlower
    exact isBlank_digits hlower
  · rw [hread] at hlower
    exact isBlank_textChars hlower
  · rw [hread, List.mem_cons, List.mem_append, List.mem_singleton] at hlower
    rcases hlower with hopen | htext | hclose
    · rw [hopen]
      rfl
    · exact isBlank_textChars htext
    · rw [hclose]
      rfl
  · have hscheme : scheme.all (fun d => !Text.isBlank d) = true := by decide
    rw [hread, List.mem_append] at hlower
    rcases hlower with hstart | htext
    · simpa using List.all_eq_true.1 hscheme _ hstart
    · exact isBlank_textChars htext

end Id

end TeamCalendar
