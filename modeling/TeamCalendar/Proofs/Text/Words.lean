import TeamCalendar.Proofs.Text.Lower

/-!
# Words up to case

A text is compared with a word of Basic Latin letters in lower or in upper case.  The case mappings are
those of all characters, so a character from outside of the block may be taken for a letter of the word.
The tables tell where that can happen: the Kelvin sign has the lower case `k`, the dotless i has the upper
case `I`, and the long s and some ligatures have upper cases with an `S` or an `F`.

* `lowerChars_eq_iff` and `upperChars_eq_iff` compare a text with a word without such a letter.
* `lower_eq_iff` and `upper_eq_iff` say the same up to the case of Basic Latin letters.
-/

namespace TeamCalendar.Text

/-- The texts have the same letters, up to the case of those of the Basic Latin block. -/
def SameLetters (s t : String) : Prop :=
  s.toList.map Char.toLower = t.toList.map Char.toLower

instance (s t : String) : Decidable (SameLetters s t) :=
  inferInstanceAs (Decidable (_ = _))

/-! ## Case in the Basic Latin block -/

theorem toNat_toUpper (c : Char) :
    c.toUpper.toNat = if 97 ≤ c.toNat ∧ c.toNat ≤ 122 then c.toNat - 32 else c.toNat := by
  unfold Char.toUpper
  split
  · next hlower =>
    have hstart : 97 ≤ c.val.toNat := hlower.1
    have hend : c.val.toNat ≤ 122 := hlower.2
    have hdistance : ('A'.val - 'a'.val).toNat = 2 ^ 32 - 32 := rfl
    rw [if_pos ⟨hlower.1, hlower.2⟩]
    change (c.val + ('A'.val - 'a'.val)).toNat = c.val.toNat - 32
    rw [UInt32.toNat_add]
    omega
  · next hlower => rw [if_neg fun hrange => hlower ⟨hrange.1, hrange.2⟩]

@[simp]
theorem isBasicLatin_toLower (c : Char) : isBasicLatin c.toLower = isBasicLatin c := by
  simp only [isBasicLatin, toNat_toLower, decide_eq_decide]
  split <;> omega

@[simp]
theorem isBasicLatin_toUpper (c : Char) : isBasicLatin c.toUpper = isBasicLatin c := by
  simp only [isBasicLatin, toNat_toUpper, decide_eq_decide]
  split <;> omega

@[simp]
theorem toUpper_toLower (c : Char) : c.toLower.toUpper = c.toUpper := by
  rw [← Char.toNat_inj, toNat_toUpper, toNat_toUpper, toNat_toLower]
  by_cases hupper : 65 ≤ c.toNat ∧ c.toNat ≤ 90
  · rw [if_pos hupper]
    split <;> split <;> omega
  · rw [if_neg hupper]

@[simp]
theorem toLower_toUpper (c : Char) : c.toUpper.toLower = c.toLower := by
  rw [← Char.toNat_inj, toNat_toLower, toNat_toLower, toNat_toUpper]
  by_cases hlower : 97 ≤ c.toNat ∧ c.toNat ≤ 122
  · rw [if_pos hlower]
    split <;> split <;> omega
  · rw [if_neg hlower]

/-- It does not matter which case letters are compared in. -/
theorem map_toUpper_eq_iff {cs ds : List Char} :
    cs.map Char.toUpper = ds.map Char.toUpper ↔ cs.map Char.toLower = ds.map Char.toLower := by
  constructor
  · intro hupper
    simpa [Function.comp_def] using congrArg (List.map Char.toLower) hupper
  · intro hlower
    simpa [Function.comp_def] using congrArg (List.map Char.toUpper) hlower

/-! ## Images of other characters -/

/-- The character lies outside of the Basic Latin block or is among the letters that may come from
there. -/
def IsForeign (strays : List Char) (c : Char) : Prop :=
  isBasicLatin c = false ∨ c ∈ strays

instance (strays : List Char) (c : Char) : Decidable (IsForeign strays c) :=
  inferInstanceAs (Decidable (_ ∨ _))

/-- The word is its own image, and none of its characters is foreign. -/
def IsNative (map : Char → Char) (strays : List Char) (word : String) : Prop :=
  ∀ d ∈ word.toList, map d = d ∧ ¬ IsForeign strays d

instance (map : Char → Char) (strays : List Char) (word : String) :
    Decidable (IsNative map strays word) :=
  List.decidableBAll _ _

theorem IsNative.map_eq {map : Char → Char} {strays : List Char} {word : String}
    (h : IsNative map strays word) : word.toList.map map = word.toList :=
  (List.map_congr_left fun d hd => (h d hd).1).trans (List.map_id word.toList)

/-- A check that the images of the run are foreign, unless the run lies in the Basic Latin block or is
just one of the characters that are spared. -/
def CaseRun.staysForeign (strays spared : List Char) (run : CaseRun) : Bool :=
  Nat.blt run.last 0x80 || Nat.ble 0x80 run.lowest ||
    (Nat.beq run.first run.last &&
      (spared.contains (Char.ofNat run.first) || strays.contains (Char.ofNat run.lowest)))

/-- What tables have to do with characters outside of the Basic Latin block: the image of each one has a
foreign character in it, the spared ones aside. -/
structure KeepsApart (runs : List CaseRun) (expansions : List (Nat × List Nat))
    (strays spared : List Char) : Prop where
  runs : runs.all (·.staysForeign strays spared) = true
  expansions : ∀ entry ∈ expansions, ∃ code ∈ entry.2, IsForeign strays (Char.ofNat code)
  /-- A code point without a character is read as the character zero. -/
  zero : '\x00' ∈ strays

variable {runs : List CaseRun} {expansions : List (Nat × List Nat)} {strays spared : List Char}
  {c : Char}

theorem isForeign_ofNat {code : Nat} (hzero : '\x00' ∈ strays) (hcode : 0x80 ≤ code) :
    IsForeign strays (Char.ofNat code) := by
  by_cases hvalid : code.isValidChar
  · left
    rw [isBasicLatin, decide_eq_false_iff_not, Char.ofNat, dif_pos hvalid]
    exact Nat.not_lt.2 hcode
  · right
    rwa [Char.ofNat, dif_neg hvalid]

/-- The check is sound. -/
theorem CaseRun.isForeign_of_staysForeign {run : CaseRun} {code : Nat} (hzero : '\x00' ∈ strays)
    (hrun : run.staysForeign strays spared = true) (hlatin : isBasicLatin c = false)
    (hspared : c ∉ spared) (himage : run.image? c.toNat = some code) :
    IsForeign strays (Char.ofNat code) := by
  obtain ⟨⟨hfirst, hlast, -⟩, rfl⟩ := image?_eq_some_iff.1 himage
  have hlarge : 0x80 ≤ c.toNat := Nat.not_lt.1 (of_decide_eq_false hlatin)
  have hlow : run.lowest ≤ Int.toNat (c.toNat + run.shift) := by
    unfold lowest
    omega
  simp only [staysForeign, Bool.or_eq_true, Bool.and_eq_true, Nat.blt_eq, Nat.ble_eq, Nat.beq_eq,
    List.contains_iff_mem] at hrun
  rcases hrun with (hinside | houtside) | ⟨hsingle, hspare | hstray⟩
  · omega
  · exact isForeign_ofNat hzero (Nat.le_trans houtside hlow)
  · obtain rfl : Char.ofNat run.first = c := by
      rw [show run.first = c.toNat by omega, Char.ofNat_toNat]
    exact absurd hspare hspared
  · right
    have hlowest : Int.toNat (c.toNat + run.shift) = run.lowest := by
      unfold lowest
      omega
    rwa [hlowest]

/-- The image of a character outside of the Basic Latin block has a foreign character in it. -/
theorem KeepsApart.exists_isForeign (h : KeepsApart runs expansions strays spared)
    (hlatin : isBasicLatin c = false) (hspared : c ∉ spared) :
    ∃ d ∈ mapCase runs expansions c, IsForeign strays d := by
  unfold mapCase
  split
  · next codes hcodes =>
    obtain ⟨before, after, hentry, -⟩ := List.lookup_eq_some_iff.1 hcodes
    obtain ⟨code, hcode, hforeign⟩ := h.expansions (c.toNat, codes) (by simp [hentry])
    exact ⟨Char.ofNat code, List.mem_map_of_mem hcode, hforeign⟩
  · split
    · next code hcode =>
      obtain ⟨run, hrun, himage⟩ := List.exists_of_findSome?_eq_some hcode
      have hforeign := CaseRun.isForeign_of_staysForeign h.zero
        (List.all_eq_true.1 h.runs run hrun) hlatin hspared himage
      exact ⟨_, List.mem_cons_self, hforeign⟩
    · exact ⟨c, List.mem_cons_self, Or.inl hlatin⟩

/-- A character that no entry of the tables is about is its own image. -/
theorem mapCase_eq_self (hruns : ∀ run ∈ runs, run.image? c.toNat = none)
    (hexpansions : ∀ entry ∈ expansions, entry.1 ≠ c.toNat) : mapCase runs expansions c = [c] := by
  have hlookup : expansions.lookup c.toNat = none := by
    rw [List.lookup_eq_none_iff]
    intro entry hentry
    simpa using (hexpansions entry hentry).symm
  rw [mapCase, hlookup, List.findSome?_eq_none_iff.2 hruns]

/-- The blank characters as runs of their own. -/
def blankRuns : List CaseRun :=
  blankRanges.map fun range => ⟨range.1, range.2, 1, 0⟩

theorem exists_blankRun (hblank : isBlank c = true) :
    ∃ blanks ∈ blankRuns, blanks.image? c.toNat = some c.toNat := by
  rw [isBlank, List.any_eq_true] at hblank
  obtain ⟨range, hrange, hmem⟩ := hblank
  rw [Bool.and_eq_true, decide_eq_true_eq, decide_eq_true_eq] at hmem
  refine ⟨_, List.mem_map_of_mem hrange, ?_⟩
  rw [CaseRun.image?_eq_some_iff]
  exact ⟨⟨hmem.1, hmem.2, Nat.mod_one _⟩, by simp⟩

/-- Tables that are not about blank characters leave them as they are. -/
theorem mapCase_of_isBlank
    (hruns : ∀ blanks ∈ blankRuns, ∀ run ∈ runs, blanks.misses run = true)
    (hexpansions : ∀ blanks ∈ blankRuns, ∀ entry ∈ expansions, blanks.image? entry.1 = none)
    (hblank : isBlank c = true) : mapCase runs expansions c = [c] := by
  obtain ⟨blanks, hblanks, himage⟩ := exists_blankRun hblank
  apply mapCase_eq_self
  · intro run hrun
    exact CaseRun.image?_eq_none_of_misses (hruns blanks hblanks run hrun) himage
  · intro entry hentry heq
    have hnone := hexpansions blanks hblanks entry hentry
    rw [heq, himage] at hnone
    cases hnone

/-! ## Lower case -/

/-- The letters that may be the lower case of a character outside of the Basic Latin block: the lower
case of the Kelvin sign. -/
def lowerStrays : List Char :=
  ['\x00', 'k']

theorem keepsApart_lower : KeepsApart lowerRuns lowerExpansions lowerStrays [] where
  runs := by decide +kernel
  expansions := by decide +kernel
  zero := List.mem_cons_self

theorem lowerChar_of_isBlank (hlatin : isBasicLatin c = false) (hblank : isBlank c = true) :
    lowerChar c = [c] := by
  have hruns : ∀ blanks ∈ blankRuns, ∀ run ∈ lowerRuns, blanks.misses run = true := by
    decide +kernel
  rw [lowerChar, hlatin]
  exact mapCase_of_isBlank hruns (by decide +kernel) hblank

theorem lowerImage_of_isBasicLatin (before after : List Char) (hlatin : isBasicLatin c = true) :
    lowerImage before c after = [c.toLower] := by
  have hsigma : c ≠ 'Σ' := by
    rintro rfl
    cases hlatin
  rw [lowerImage, if_neg hsigma, lowerChar, if_pos hlatin]

theorem exists_isForeign_lowerImage (before after : List Char) (hlatin : isBasicLatin c = false) :
    ∃ d ∈ lowerImage before c after, IsForeign lowerStrays d := by
  by_cases hsigma : c = 'Σ'
  · refine ⟨lowerSigma before after, by simp [lowerImage, hsigma], Or.inl ?_⟩
    unfold lowerSigma
    split <;> rfl
  · rw [lowerImage, if_neg hsigma, lowerChar, hlatin]
    exact keepsApart_lower.exists_isForeign hlatin List.not_mem_nil

theorem lowerFrom_of_isBasicLatin (cs before : List Char)
    (hlatin : ∀ c ∈ cs, isBasicLatin c = true) :
    lowerFrom before [] cs = cs.map Char.toLower := by
  induction cs generalizing before with
  | nil => rfl
  | cons c after ih =>
    rw [List.forall_mem_cons] at hlatin
    rw [lowerFrom_cons, lowerImage_of_isBasicLatin before after hlatin.1, ih (c :: before) hlatin.2,
      List.map_cons, List.singleton_append]

/-- A text whose lower case has no foreign character has none outside of the Basic Latin block. -/
theorem isBasicLatin_of_lowerFrom (cs before : List Char)
    (hnative : ∀ d ∈ lowerFrom before [] cs, ¬ IsForeign lowerStrays d) :
    ∀ c ∈ cs, isBasicLatin c = true := by
  induction cs generalizing before with
  | nil => simp
  | cons c after ih =>
    rw [lowerFrom_cons] at hnative
    rw [List.forall_mem_cons]
    constructor
    · rw [← Bool.not_eq_false]
      intro hlatin
      obtain ⟨d, hd, hforeign⟩ := exists_isForeign_lowerImage before after hlatin
      exact hnative d (List.mem_append_left _ hd) hforeign
    · apply ih (c :: before)
      intro d hd
      exact hnative d (List.mem_append_right _ hd)

/-- The lower case of a text is a word without foreign characters exactly if its Basic Latin letters,
brought into lower case, are the word. -/
theorem lowerChars_eq_iff {cs word : List Char} (hnative : ∀ d ∈ word, ¬ IsForeign lowerStrays d) :
    lowerChars cs = word ↔ cs.map Char.toLower = word := by
  constructor
  · rintro rfl
    exact (lowerFrom_of_isBasicLatin cs [] (isBasicLatin_of_lowerFrom cs [] hnative)).symm
  · rintro rfl
    apply lowerFrom_of_isBasicLatin
    intro c hc
    have hlatin : isBasicLatin c.toLower ≠ false := fun hforeign =>
      hnative c.toLower (List.mem_map_of_mem hc) (Or.inl hforeign)
    simpa using hlatin

/-- The lower case of a text is a word in lower case exactly if the text has the letters of the word. -/
theorem lower_eq_iff {s word : String} (hword : IsNative Char.toLower lowerStrays word) :
    lower s = word ↔ SameLetters s word := by
  rw [lower, ← String.toList_inj, String.toList_ofList, SameLetters, hword.map_eq]
  exact lowerChars_eq_iff fun d hd => (hword d hd).2

/-! ## Upper case -/

/-- The letters that may be in the upper case of a character outside of the Basic Latin block, the
dotless i aside: those from the long s and from ligatures. -/
def upperStrays : List Char :=
  ['\x00', 'F', 'S']

theorem keepsApart_upper : KeepsApart upperRuns upperExpansions upperStrays ['ı'] where
  runs := by decide +kernel
  expansions := by decide +kernel
  zero := List.mem_cons_self

theorem upperChar_of_isBlank (hlatin : isBasicLatin c = false) (hblank : isBlank c = true) :
    upperChar c = [c] := by
  have hruns : ∀ blanks ∈ blankRuns, ∀ run ∈ upperRuns, blanks.misses run = true := by
    decide +kernel
  rw [upperChar, hlatin]
  exact mapCase_of_isBlank hruns (by decide +kernel) hblank

/-- The i with a dot in place of the one without. -/
def dotted (c : Char) : Char :=
  if c = 'ı' then 'i' else c

/-- A text with dots on all its i. -/
def withDots (s : String) : String :=
  String.ofList (s.toList.map dotted)

theorem upperChar_of_dotted (hlatin : isBasicLatin (dotted c) = true) :
    upperChar c = [(dotted c).toUpper] := by
  unfold dotted at hlatin ⊢
  split
  · next hdotless =>
    subst hdotless
    decide +kernel
  · next hdotless =>
    rw [if_neg hdotless] at hlatin
    rw [upperChar, if_pos hlatin]

theorem upperChars_of_dotted {cs : List Char} (hlatin : ∀ c ∈ cs, isBasicLatin (dotted c) = true) :
    upperChars cs = cs.map fun c => (dotted c).toUpper := by
  induction cs with
  | nil => rfl
  | cons c cs ih =>
    rw [List.forall_mem_cons] at hlatin
    rw [upperChars] at ih
    rw [upperChars, List.flatMap_cons, ih hlatin.2, upperChar_of_dotted hlatin.1, List.map_cons,
      List.singleton_append]

/-- A text whose upper case has no foreign character has none outside of the Basic Latin block but the
dotless i. -/
theorem isBasicLatin_dotted_of_upperChars {cs : List Char}
    (hnative : ∀ d ∈ upperChars cs, ¬ IsForeign upperStrays d) :
    ∀ c ∈ cs, isBasicLatin (dotted c) = true := by
  intro c hc
  by_cases hdotless : c = 'ı'
  · rw [hdotless]
    rfl
  · rw [dotted, if_neg hdotless, ← Bool.not_eq_false]
    intro hlatin
    obtain ⟨d, hd, hforeign⟩ :=
      keepsApart_upper.exists_isForeign hlatin fun hmem => hdotless (List.mem_singleton.1 hmem)
    have hmem : d ∈ upperChar c := by
      rw [upperChar, hlatin]
      exact hd
    exact hnative d (List.mem_flatMap.2 ⟨c, hc, hmem⟩) hforeign

/-- The upper case of a text is a word without foreign characters exactly if its Basic Latin letters,
brought into upper case, are the word, where a dotless i counts as an i. -/
theorem upperChars_eq_iff {cs word : List Char} (hnative : ∀ d ∈ word, ¬ IsForeign upperStrays d) :
    upperChars cs = word ↔ (cs.map fun c => (dotted c).toUpper) = word := by
  constructor
  · rintro rfl
    exact (upperChars_of_dotted (isBasicLatin_dotted_of_upperChars hnative)).symm
  · rintro rfl
    apply upperChars_of_dotted
    intro c hc
    have hlatin : isBasicLatin (dotted c).toUpper ≠ false := fun hforeign =>
      hnative _ (List.mem_map_of_mem hc) (Or.inl hforeign)
    simpa using hlatin

/-- The upper case of a text is a word in upper case exactly if the text has the letters of the word,
where a dotless i counts as an i. -/
theorem upper_eq_iff {s word : String} (hword : IsNative Char.toUpper upperStrays word) :
    upper s = word ↔ SameLetters (withDots s) word := by
  rw [upper, ← String.toList_inj, String.toList_ofList, SameLetters, ← map_toUpper_eq_iff,
    hword.map_eq, withDots, String.toList_ofList, List.map_map]
  exact upperChars_eq_iff fun d hd => (hword d hd).2

end TeamCalendar.Text
