import TeamCalendar.Proofs.Http.RefusalOrder
import TeamCalendar.Proofs.Identifier.Order
import TeamCalendar.Proofs.Identifier.Spelling
import TeamCalendar.Proofs.Json.Codec
import TeamCalendar.Proofs.Text.Percent

/-!
# Readers of identifiers

Identifiers are read from JSON texts, from segments of paths, and from texts around which blanks may
stand.  The readers agree on what they read.

* `Id.parse?_iff_parseTrimmed?` compares reading a text as it stands with reading it without the blanks
  around it.
* `Id.readers_agree` adds what is read, and that the written forms are in the order of the identifiers.
-/

namespace TeamCalendar.Id

variable {kind : IdKind} {id : Id kind} {s : String}

theorem parseTrimmed?_eq (s : String) :
    (parseTrimmed? s : Option (Id kind)) = parse? (Text.trim s) := by
  rw [parseTrimmed?, parse?, Text.trim, String.toList_ofList]

/-- A text is read as it stands if it is read without blanks around it, and has none. -/
theorem parse?_iff_parseTrimmed? :
    parse? s = some id ↔ parseTrimmed? s = some id ∧ Text.Trimmed s.toList := by
  constructor
  · intro h
    have hfilled := isBlank_of_parse? h
    have htrimmed : Text.Trimmed s.toList :=
      ⟨fun c hc => hfilled c (List.mem_of_mem_head? hc),
        fun c hc => hfilled c (List.mem_of_getLast? hc)⟩
    rw [parseTrimmed?, htrimmed.trimChars_eq]
    exact ⟨h, htrimmed⟩
  · rintro ⟨h, htrimmed⟩
    rwa [parseTrimmed?, htrimmed.trimChars_eq] at h

/-- An identifier is read back from its written form with blanks around it. -/
theorem parseTrimmed?_append_append (id : Id kind) {before after : String}
    (hbefore : Text.isBlankText before = true) (hafter : Text.isBlankText after = true) :
    parseTrimmed? (before ++ id.text ++ after) = some id := by
  obtain ⟨hread, -⟩ := parse?_iff_parseTrimmed?.1 id.parse?_text
  rw [parseTrimmed?, String.toList_append, String.toList_append,
    Text.trimChars_append_append _ (Text.isBlank_of_isBlankText hbefore)
      (Text.isBlank_of_isBlankText hafter)]
  exact hread

/-- Identifiers are in the order of their written forms. -/
theorem compare_eq_lt_iff_text {a b : Id kind} : compare a b = .lt ↔ a.text < b.text := by
  rw [compare_eq_lt_iff]
  constructor
  · exact text_lt
  · intro htext
    refine Decidable.byContradiction fun hnot => ?_
    have hle : b.bits ≤ a.bits := BitVec.not_lt.1 hnot
    by_cases heq : b = a
    · subst heq
      exact String.lt_irrefl _ htext
    · exact String.lt_asymm htext (text_lt (lt_of_le_of_ne hle heq))

/-- The readers of identifiers agree.  A JSON text, whatever follows it, and a segment of a path are
read as an identifier exactly if the text that they stand for, which may be any text, is read as this
identifier without the blanks around it, and has none; the texts that are read so are the spellings of
the identifier, in any case of the letters.  The written form is read back with any blanks around it.
Identifiers are ordered as their written forms are. -/
theorem readers_agree (kind : IdKind) :
    (∀ (input rest : List UInt8) (id : Id kind), codec.read input = .ok (id, rest) ↔
      ∃ s, Json.Codec.text.read input = .ok (s, rest) ∧
        parseTrimmed? s = some id ∧ Text.Trimmed s.toList) ∧
    (∀ (segment : String) (id : Id kind), Http.pathId segment = .ok id ↔
      ∃ s, Text.percentDecode? segment = some s ∧
        parseTrimmed? s = some id ∧ Text.Trimmed s.toList) ∧
    (∀ s : String, Json.Codec.text.decode (Text.bytesOf (Json.Codec.text.encode s)) = .ok s ∧
      Text.percentDecode? (Text.percentEncode s) = some s) ∧
    (∀ (s : String) (id : Id kind),
      (parseTrimmed? s = some id ∧ Text.Trimmed s.toList ↔ id.IsSpelt s) ∧
      (parseTrimmed? s = some id ↔ id.IsSpelt (Text.trim s))) ∧
    (∀ (id : Id kind) (before after : String), Text.isBlankText before = true →
      Text.isBlankText after = true → parseTrimmed? (before ++ id.text ++ after) = some id) ∧
    ∀ a b : Id kind, compare a b = .lt ↔ a.text < b.text := by
  refine ⟨?_, ?_, ?_, ?_, ?_, ?_⟩
  · intro input rest id
    simp only [codec, Json.Codec.read_parsed_eq_ok_iff, parse?_iff_parseTrimmed?]
  · intro segment id
    simp only [← Http.isIdentifier_iff, Http.IsIdentifier, parse?_iff_parseTrimmed?]
  · intro s
    exact ⟨Json.Codec.restores_text.lossless.decode_encode s, Text.percentDecode?_percentEncode s⟩
  · intro s id
    refine ⟨?_, ?_⟩
    · rw [← parse?_iff_parseTrimmed?, parse?_eq_some_iff]
    · rw [parseTrimmed?_eq, parse?_eq_some_iff]
  · intro id before after hbefore hafter
    exact id.parseTrimmed?_append_append hbefore hafter
  · intro a b
    exact compare_eq_lt_iff_text

/-- A name in a scheme is read in mixed case and between blanks.  Braces are read in a segment of a
path, also if they are encoded, but blanks are not. -/
theorem readers_agree_sample :
    parseTrimmed? "\u00a0Urn:UUID:0F8FAD5B-d9cb-469f-A165-70867728950e\n" =
      some (⟨0x0f8fad5bd9cb469fa16570867728950e⟩ : UserId) ∧
    Http.pathId "%7B0f8fad5b-d9cb-469f-a165-70867728950E%7d" =
      .ok (⟨0x0f8fad5bd9cb469fa16570867728950e⟩ : UserId) ∧
    Http.pathId "%200f8fad5bd9cb469fa16570867728950e" ≠
      .ok (⟨0x0f8fad5bd9cb469fa16570867728950e⟩ : UserId) := by
  obtain ⟨-, hpath, -, hspelt, -, -⟩ := readers_agree .user
  refine ⟨?_, ?_, ?_⟩
  · rw [(hspelt _ _).2]
    decide +kernel
  · have hdecoded : Text.percentDecode? "%7B0f8fad5b-d9cb-469f-a165-70867728950E%7d" =
        some "\x7b0f8fad5b-d9cb-469f-a165-70867728950E\x7d" := by decide +kernel
    rw [hpath]
    refine ⟨_, hdecoded, (hspelt _ _).1.2 ?_⟩
    decide +kernel
  · have hdecoded : Text.percentDecode? "%200f8fad5bd9cb469fa16570867728950e" =
        some " 0f8fad5bd9cb469fa16570867728950e" := by decide +kernel
    rw [Ne, hpath]
    rintro ⟨s, hs, hread⟩
    rw [hdecoded, Option.some.injEq] at hs
    subst hs
    have hnot : ¬ (⟨0x0f8fad5bd9cb469fa16570867728950e⟩ : UserId).IsSpelt
        " 0f8fad5bd9cb469fa16570867728950e" := by decide +kernel
    exact hnot ((hspelt _ _).1.1 hread)

end TeamCalendar.Id
