import TeamCalendar.Proofs.Text.Trim
import TeamCalendar.Text.Case

/-!
# Lower case twice

A lower case text stays as it is when it is brought into lower case again, and no blank comes up at
either end of a text on the way.  Both rest on the tables: the images of the runs lie outside all
runs and are not blank.
-/

namespace TeamCalendar.Text

namespace CaseRun

/-- The smallest image of the run. -/
def lowest (run : CaseRun) : Nat :=
  Int.toNat (run.first + run.shift)

/-- The largest image of the run. -/
def highest (run : CaseRun) : Nat :=
  Int.toNat (run.last + run.shift)

/-- A check that the images of the run lie outside another run: before it, after it, or between its
members. -/
def misses (run other : CaseRun) : Bool :=
  Nat.blt run.highest other.first || Nat.blt other.last run.lowest ||
    (Nat.ble other.first run.lowest && Nat.blt 0 other.first &&
      (Nat.beq (run.step % other.step) 0 || Nat.beq run.first run.last) &&
      !Nat.beq ((run.lowest - other.first) % other.step) 0)

theorem image?_eq_some_iff {run : CaseRun} {code image : Nat} :
    run.image? code = some image ↔
      (run.first ≤ code ∧ code ≤ run.last ∧ (code - run.first) % run.step = 0) ∧
        Int.toNat (code + run.shift) = image := by
  unfold image?
  split <;> simp_all

theorem image?_eq_none_iff {run : CaseRun} {code : Nat} :
    run.image? code = none ↔
      ¬(run.first ≤ code ∧ code ≤ run.last ∧ (code - run.first) % run.step = 0) := by
  unfold image?
  split <;> simp_all

/-- The check is sound: no image of the run belongs to the other one. -/
theorem image?_eq_none_of_misses {run other : CaseRun} {code image : Nat}
    (hmisses : run.misses other = true) (himage : run.image? code = some image) :
    other.image? image = none := by
  obtain ⟨⟨hfirst, hlast, hstep⟩, rfl⟩ := image?_eq_some_iff.1 himage
  have hlow : run.lowest ≤ Int.toNat (code + run.shift) := by
    unfold lowest
    omega
  have hhigh : Int.toNat (code + run.shift) ≤ run.highest := by
    unfold highest
    omega
  rw [image?_eq_none_iff]
  rintro ⟨hbegin, hend, hoffset⟩
  simp only [misses, Bool.or_eq_true, Bool.and_eq_true, Nat.blt_eq, Nat.ble_eq, Nat.beq_eq,
    Bool.not_eq_true'] at hmisses
  rcases hmisses with (hbefore | hafter) | ⟨⟨⟨hbelow, hpos⟩, hsteps⟩, hbetween⟩
  · omega
  · omega
  · -- the images lie at the distances of the members from the first one, which are none there
    have hdistance : Int.toNat (code + run.shift) - other.first =
        (run.lowest - other.first) + (code - run.first) := by
      unfold lowest at hbelow ⊢
      omega
    have hmember : (code - run.first) % other.step = 0 := by
      rcases hsteps with hsteps | hsingle
      · exact Nat.mod_eq_zero_of_dvd
          (Nat.dvd_trans (Nat.dvd_of_mod_eq_zero hsteps) (Nat.dvd_of_mod_eq_zero hstep))
      · have hzero : code - run.first = 0 := by omega
        rw [hzero, Nat.zero_mod]
    rw [hdistance, Nat.add_mod, hmember, Nat.add_zero, Nat.mod_mod] at hoffset
    exact Nat.ne_of_beq_eq_false hbetween hoffset

/-- The first code point of all runs. -/
def earliest (runs : List CaseRun) : Nat :=
  runs.foldr (fun run code => min run.first code) 0x110000

/-- The last code point of all runs. -/
def latest (runs : List CaseRun) : Nat :=
  runs.foldr (fun run code => max run.last code) 0

theorem earliest_le {runs : List CaseRun} {run : CaseRun} (hrun : run ∈ runs) :
    earliest runs ≤ run.first := by
  induction hrun with
  | head rest => exact Nat.min_le_left _ _
  | tail other _ ih => exact Nat.le_trans (Nat.min_le_right _ _) ih

theorem le_latest {runs : List CaseRun} {run : CaseRun} (hrun : run ∈ runs) :
    run.last ≤ latest runs := by
  induction hrun with
  | head rest => exact Nat.le_max_left _ _
  | tail other _ ih => exact Nat.le_trans ih (Nat.le_max_right _ _)

/-- The check against all runs of a list.  Runs that lie before or after the images as a whole are
passed over at once, the others are halved as often as the first argument says. -/
def missesAll (run : CaseRun) : Nat → List CaseRun → Bool
  | 0, others => others.all run.misses
  | halvings + 1, others =>
    Nat.blt run.highest (earliest others) || Nat.blt (latest others) run.lowest ||
      (run.missesAll halvings (others.take (others.length / 2)) &&
        run.missesAll halvings (others.drop (others.length / 2)))

theorem misses_of_missesAll {run other : CaseRun} {others : List CaseRun} (halvings : Nat)
    (hall : run.missesAll halvings others = true) (hother : other ∈ others) :
    run.misses other = true := by
  induction halvings generalizing others with
  | zero => exact List.all_eq_true.1 hall other hother
  | succ halvings ih =>
    rw [missesAll, Bool.or_eq_true, Bool.or_eq_true, Bool.and_eq_true, Nat.blt_eq, Nat.blt_eq]
      at hall
    rcases hall with (hbefore | hafter) | ⟨hfront, hback⟩
    · have hfirst := earliest_le hother
      simp only [misses, Bool.or_eq_true, Nat.blt_eq]
      omega
    · have hlast := le_latest hother
      simp only [misses, Bool.or_eq_true, Nat.blt_eq]
      omega
    · rw [← List.take_append_drop (others.length / 2) others, List.mem_append] at hother
      rcases hother with hother | hother
      · exact ih hfront hother
      · exact ih hback hother

end CaseRun

/-- The lower case character with an image of several characters, and the blank characters, as
runs. -/
def strangeRuns : List CaseRun :=
  ⟨0x0130, 0x0130, 1, 0⟩ :: blankRanges.map fun range => ⟨range.1, range.2, 1, 0⟩

/-- No image of a run belongs to a run again, is blank or has an image of several characters. -/
theorem lowerRuns_miss :
    ∀ run ∈ lowerRuns, ∀ other ∈ lowerRuns ++ strangeRuns, run.misses other = true := by
  have hall : lowerRuns.all (·.missesAll 5 (lowerRuns ++ strangeRuns)) = true := by decide +kernel
  intro run hrun other hother
  exact CaseRun.misses_of_missesAll 5 (List.all_eq_true.1 hall run hrun) hother

/-- The character that stands for a code point without one belongs to no run. -/
theorem image?_zero : ∀ run ∈ lowerRuns ++ strangeRuns, run.image? 0 = none := by
  decide +kernel

theorem findSome?_image?_sigma_ne_none :
    lowerRuns.findSome? (·.image? 'Σ'.toNat) ≠ none := by
  decide +kernel

theorem lookup_lowerExpansions (code : Nat) :
    lowerExpansions.lookup code = if code = 0x0130 then some [0x0069, 0x0307] else none := by
  rw [lowerExpansions, List.lookup_cons, List.lookup_nil]
  by_cases hcode : code = 0x0130
  · rw [if_pos hcode, beq_iff_eq.2 hcode]
  · rw [if_neg hcode, beq_eq_false_iff_ne.2 hcode]

/-- The character is its own lower case, wherever it stands. -/
def Settled (c : Char) : Prop :=
  c ≠ 'Σ' ∧ lowerChar c = [c]

instance (c : Char) : Decidable (Settled c) :=
  inferInstanceAs (Decidable (_ ∧ _))

/-- The images that the runs do not give: those of the dotted i and of a sigma. -/
theorem settled_special : Settled 'i' ∧ Settled '\u0307' ∧ Settled 'ς' ∧ Settled 'σ' := by
  decide +kernel

/-- Where a character in an image comes from: the Basic Latin block, the capital dotted i, a run, or
nowhere, when the character is an image of itself. -/
theorem mem_lowerChar {c d : Char} (hd : d ∈ lowerChar c) :
    (isBasicLatin c = true ∧ d = c.toLower) ∨
    d ∈ ['i', '\u0307'] ∨
    (∀ run ∈ lowerRuns ++ strangeRuns, run.image? d.toNat = none) ∨
    (d = c ∧ Settled c) := by
  by_cases hlatin : isBasicLatin c = true
  · rw [lowerChar, if_pos hlatin, List.mem_singleton] at hd
    exact Or.inl ⟨hlatin, hd⟩
  · rw [lowerChar, if_neg hlatin, mapCase] at hd
    split at hd
    · next codes hcodes =>
      rw [lookup_lowerExpansions, Option.ite_none_right_eq_some] at hcodes
      rw [← Option.some.inj hcodes.2] at hd
      exact Or.inr (Or.inl hd)
    · next hexpansion =>
      split at hd
      · next image himage =>
        obtain ⟨run, hrun, hcode⟩ := List.exists_of_findSome?_eq_some himage
        rw [List.mem_singleton] at hd
        refine Or.inr (Or.inr (Or.inl ?_))
        intro other hother
        by_cases hvalid : image.isValidChar
        · have hcodeOf : d.toNat = image := by
            rw [hd, Char.ofNat, dif_pos hvalid]
            rfl
          rw [hcodeOf]
          exact CaseRun.image?_eq_none_of_misses (lowerRuns_miss run hrun other hother) hcode
        -- an image that is no character would be read as the character zero
        · have hzero : d.toNat = 0 := by
            rw [hd, Char.ofNat, dif_neg hvalid]
            rfl
          rw [hzero]
          exact image?_zero other hother
      · next hnone =>
        rw [List.mem_singleton] at hd
        refine Or.inr (Or.inr (Or.inr ⟨hd, ?_, ?_⟩))
        · rintro rfl
          exact findSome?_image?_sigma_ne_none hnone
        · rw [lowerChar, if_neg hlatin, mapCase, hexpansion, hnone]

/-- A character outside all runs is settled. -/
theorem settled_of_forall_image?_eq_none {c : Char}
    (h : ∀ run ∈ lowerRuns ++ strangeRuns, run.image? c.toNat = none) : Settled c := by
  have hruns : ∀ run ∈ lowerRuns, run.image? c.toNat = none := fun run hrun =>
    h run (List.mem_append_left _ hrun)
  have hnone : lowerRuns.findSome? (·.image? c.toNat) = none :=
    List.findSome?_eq_none_iff.2 hruns
  constructor
  · rintro rfl
    exact findSome?_image?_sigma_ne_none hnone
  · by_cases hlatin : isBasicLatin c = true
    · -- the capital letters of the block are the first run
      have hcapital := hruns ⟨0x0041, 0x005A, 1, 32⟩ List.mem_cons_self
      rw [CaseRun.image?_eq_none_iff] at hcapital
      have hupper : ¬('A'.val ≤ c.val ∧ c.val ≤ 'Z'.val) := fun hrange =>
        hcapital ⟨hrange.1, hrange.2, Nat.mod_one _⟩
      have hlower : c.toLower = c := dif_neg hupper
      rw [lowerChar, if_pos hlatin, hlower]
    · have hdotted := h ⟨0x0130, 0x0130, 1, 0⟩
        (List.mem_append_right _ List.mem_cons_self)
      rw [CaseRun.image?_eq_none_iff] at hdotted
      have hne : c.toNat ≠ 0x0130 := by
        intro heq
        simp [heq] at hdotted
      rw [lowerChar, if_neg hlatin, mapCase, lookup_lowerExpansions, if_neg hne, hnone]

theorem isBlank_eq_false_of_forall_image?_eq_none {c : Char}
    (h : ∀ run ∈ lowerRuns ++ strangeRuns, run.image? c.toNat = none) : isBlank c = false := by
  rw [isBlank, List.any_eq_false]
  intro range hrange
  have hstrange : ⟨range.1, range.2, 1, 0⟩ ∈ strangeRuns :=
    List.mem_cons_of_mem _ (List.mem_map.2 ⟨range, hrange, rfl⟩)
  have hrun := h _ (List.mem_append_right _ hstrange)
  rw [CaseRun.image?_eq_none_iff] at hrun
  simp only [Bool.and_eq_true, decide_eq_true_eq]
  intro hmem
  exact hrun ⟨hmem.1, hmem.2, Nat.mod_one _⟩

theorem toNat_toLower (c : Char) :
    c.toLower.toNat = if 65 ≤ c.toNat ∧ c.toNat ≤ 90 then c.toNat + 32 else c.toNat := by
  unfold Char.toLower
  split
  · next hupper =>
    have hbound : c.val.toNat ≤ 90 := hupper.2
    have hdistance : ('a'.val - 'A'.val).toNat = 32 := rfl
    rw [if_pos ⟨hupper.1, hupper.2⟩]
    change (c.val + ('a'.val - 'A'.val)).toNat = c.val.toNat + 32
    rw [UInt32.toNat_add]
    omega
  · next hupper => rw [if_neg fun hrange => hupper ⟨hrange.1, hrange.2⟩]

theorem settled_toLower {c : Char} (hlatin : isBasicLatin c = true) : Settled c.toLower := by
  have hcode : c.toNat < 128 := of_decide_eq_true hlatin
  have hlower : isBasicLatin c.toLower = true := by
    rw [isBasicLatin, decide_eq_true_eq, toNat_toLower]
    split <;> omega
  constructor
  · intro hsigma
    rw [hsigma] at hlower
    exact absurd hlower (by decide)
  · have hsmall : ¬(65 ≤ c.toLower.toNat ∧ c.toLower.toNat ≤ 90) := by
      rw [toNat_toLower]
      split <;> omega
    rw [lowerChar, if_pos hlower, List.singleton_inj, ← Char.toNat_inj, toNat_toLower c.toLower,
      if_neg hsmall]

theorem isBlank_toLower (c : Char) : isBlank c.toLower = isBlank c := by
  have hcode := toNat_toLower c
  split at hcode
  · rw [Bool.eq_iff_iff]
    simp [isBlank, blankRanges]
    omega
  · rw [Char.toNat_inj.1 hcode]

/-- What is in lower case does not change any more. -/
theorem settled_of_mem_lowerChar {c d : Char} (hd : d ∈ lowerChar c) : Settled d := by
  rcases mem_lowerChar hd with ⟨hlatin, rfl⟩ | hdotted | houtside | ⟨rfl, hsettled⟩
  · exact settled_toLower hlatin
  · rw [List.mem_cons, List.mem_singleton] at hdotted
    rcases hdotted with rfl | rfl
    · exact settled_special.1
    · exact settled_special.2.1
  · exact settled_of_forall_image?_eq_none houtside
  · exact hsettled

/-- No character becomes blank by being brought into lower case. -/
theorem isBlank_of_mem_lowerChar {c d : Char} (hblank : isBlank c = false)
    (hd : d ∈ lowerChar c) : isBlank d = false := by
  rcases mem_lowerChar hd with ⟨-, rfl⟩ | hdotted | houtside | ⟨rfl, -⟩
  · rw [isBlank_toLower, hblank]
  · rw [List.mem_cons, List.mem_singleton] at hdotted
    rcases hdotted with rfl | rfl <;> decide
  · exact isBlank_eq_false_of_forall_image?_eq_none houtside
  · exact hblank

theorem lowerChar_ne_nil (c : Char) : lowerChar c ≠ [] := by
  unfold lowerChar mapCase
  split
  · exact List.cons_ne_nil _ _
  · split
    · next codes hcodes =>
      rw [lookup_lowerExpansions, Option.ite_none_right_eq_some] at hcodes
      rw [← Option.some.inj hcodes.2]
      exact List.cons_ne_nil _ _
    · split <;> exact List.cons_ne_nil _ _

/-- The image of a character between two texts; the one before it is given backwards. -/
def lowerImage (before : List Char) (c : Char) (after : List Char) : List Char :=
  if c = 'Σ' then [lowerSigma before after] else lowerChar c

theorem lowerImage_ne_nil (before : List Char) (c : Char) (after : List Char) :
    lowerImage before c after ≠ [] := by
  unfold lowerImage
  split
  · exact List.cons_ne_nil _ _
  · exact lowerChar_ne_nil c

theorem mem_lowerImage {before after : List Char} {c d : Char}
    (hd : d ∈ lowerImage before c after) :
    d ∈ ['ς', 'σ'] ∨ d ∈ lowerChar c := by
  unfold lowerImage lowerSigma at hd
  split at hd
  · split at hd <;> simp_all
  · exact Or.inr hd

theorem settled_of_mem_lowerImage {before after : List Char} {c d : Char}
    (hd : d ∈ lowerImage before c after) : Settled d := by
  rcases mem_lowerImage hd with hsigma | hd
  · rw [List.mem_cons, List.mem_singleton] at hsigma
    rcases hsigma with rfl | rfl
    · exact settled_special.2.2.1
    · exact settled_special.2.2.2
  · exact settled_of_mem_lowerChar hd

theorem isBlank_of_mem_lowerImage {before after : List Char} {c d : Char}
    (hblank : isBlank c = false) (hd : d ∈ lowerImage before c after) : isBlank d = false := by
  rcases mem_lowerImage hd with hsigma | hd
  · rw [List.mem_cons, List.mem_singleton] at hsigma
    rcases hsigma with rfl | rfl <;> decide
  · exact isBlank_of_mem_lowerChar hblank hd

theorem lowerFrom_eq_append (cs before out : List Char) :
    lowerFrom before out cs = out.reverse ++ lowerFrom before [] cs := by
  induction cs generalizing before out with
  | nil => simp [lowerFrom]
  | cons c after ih =>
    rw [lowerFrom, lowerFrom, ih, ih (c :: before) (List.reverseAux _ [])]
    simp

theorem lowerFrom_cons (before : List Char) (c : Char) (after : List Char) :
    lowerFrom before [] (c :: after) =
      lowerImage before c after ++ lowerFrom (c :: before) [] after := by
  rw [lowerFrom, lowerFrom_eq_append]
  simp [lowerImage]

theorem settled_of_mem_lowerFrom {d : Char} (cs before : List Char)
    (hd : d ∈ lowerFrom before [] cs) : Settled d := by
  induction cs generalizing before with
  | nil => simp [lowerFrom] at hd
  | cons c after ih =>
    rw [lowerFrom_cons, List.mem_append] at hd
    rcases hd with hd | hd
    · exact settled_of_mem_lowerImage hd
    · exact ih (c :: before) hd

theorem lowerFrom_eq_self (cs before : List Char) (h : ∀ c ∈ cs, Settled c) :
    lowerFrom before [] cs = cs := by
  induction cs generalizing before with
  | nil => rfl
  | cons c after ih =>
    obtain ⟨hsigma, hself⟩ := h c List.mem_cons_self
    rw [lowerFrom_cons, ih (c :: before) fun d hd => h d (List.mem_cons_of_mem c hd),
      lowerImage, if_neg hsigma, hself, List.singleton_append]

@[simp]
theorem lowerChars_lowerChars (cs : List Char) : lowerChars (lowerChars cs) = lowerChars cs :=
  lowerFrom_eq_self _ [] fun _ hd => settled_of_mem_lowerFrom cs [] hd

@[simp]
theorem lower_lower (s : String) : lower (lower s) = lower s := by
  simp [lower]

theorem isBlank_head?_lowerFrom (cs before : List Char)
    (h : ∀ c ∈ cs.head?, isBlank c = false) :
    ∀ d ∈ (lowerFrom before [] cs).head?, isBlank d = false := by
  cases cs with
  | nil => simp [lowerFrom]
  | cons c after =>
    intro d hd
    have hmem : d ∈ lowerImage before c after := by
      rw [lowerFrom_cons] at hd
      cases himage : lowerImage before c after with
      | nil => exact absurd himage (lowerImage_ne_nil before c after)
      | cons first rest =>
        rw [himage] at hd
        exact List.mem_of_mem_head? hd
    exact isBlank_of_mem_lowerImage (h c rfl) hmem

theorem isBlank_getLast?_lowerFrom (cs before : List Char)
    (h : ∀ c ∈ cs.getLast?, isBlank c = false) :
    ∀ d ∈ (lowerFrom before [] cs).getLast?, isBlank d = false := by
  induction cs generalizing before with
  | nil => simp [lowerFrom]
  | cons c after ih =>
    intro d hd
    rw [lowerFrom_cons] at hd
    cases after with
    | nil =>
      rw [lowerFrom, List.reverse_nil, List.append_nil] at hd
      exact isBlank_of_mem_lowerImage (h c rfl) (List.mem_of_getLast? hd)
    | cons c' after =>
      have hne : (lowerFrom (c :: before) [] (c' :: after)).getLast? ≠ none := by
        rw [lowerFrom_cons, ne_eq, List.getLast?_eq_none_iff]
        exact List.append_ne_nil_of_left_ne_nil (lowerImage_ne_nil _ _ _) _
      rw [List.getLast?_append, Option.or_of_isSome (Option.isSome_iff_ne_none.2 hne)] at hd
      exact ih (c :: before) (by simpa using h) d hd

theorem Trimmed.lowerChars {cs : List Char} (h : Trimmed cs) : Trimmed (lowerChars cs) :=
  ⟨isBlank_head?_lowerFrom cs [] h.1, isBlank_getLast?_lowerFrom cs [] h.2⟩

/-- A text that has been trimmed and brought into lower case stays as it is when this is done
again. -/
theorem lower_trim_lower_trim (s : String) : lower (trim (lower (trim s))) = lower (trim s) := by
  have htrimmed : Trimmed (lowerChars (trimChars s.toList)) :=
    (trimmed_trimChars s.toList).lowerChars
  simp [lower, trim, htrimmed.trimChars_eq]

example : lower (trim " ΟΔΟΣ ") = "οδος" := by
  decide +kernel

end TeamCalendar.Text
