import TeamCalendar.Text.Blank

/-!
# Trimmed texts

A text is trimmed when neither its first nor its last character is blank.  Trimming makes every text
trimmed and leaves a trimmed one as it is.  The two ends may be trimmed in either order.
-/

namespace TeamCalendar.Text

/-- Neither end of the text is blank. -/
def Trimmed (cs : List Char) : Prop :=
  (∀ c ∈ cs.head?, isBlank c = false) ∧ ∀ c ∈ cs.getLast?, isBlank c = false

theorem isBlank_head?_trimStartChars (cs : List Char) :
    ∀ c ∈ (trimStartChars cs).head?, isBlank c = false := by
  intro c hc
  have hdrop := List.head?_dropWhile_not isBlank cs
  rw [trimStartChars] at hc
  rw [Option.mem_def] at hc
  rw [hc] at hdrop
  simpa using hdrop

theorem trimStartChars_eq_self {cs : List Char} (h : ∀ c ∈ cs.head?, isBlank c = false) :
    trimStartChars cs = cs := by
  cases cs with
  | nil => rfl
  | cons c cs =>
    have hc : isBlank c = false := h c rfl
    simp [trimStartChars, hc]

theorem trimEndChars_eq_self {cs : List Char} (h : ∀ c ∈ cs.getLast?, isBlank c = false) :
    trimEndChars cs = cs := by
  have hreverse : cs.reverse.dropWhile isBlank = cs.reverse :=
    trimStartChars_eq_self (by simpa using h)
  rw [trimEndChars, hreverse, List.reverse_reverse]

theorem isBlank_getLast?_trimEndChars (cs : List Char) :
    ∀ c ∈ (trimEndChars cs).getLast?, isBlank c = false := by
  intro c hc
  rw [trimEndChars, List.getLast?_reverse] at hc
  exact isBlank_head?_trimStartChars cs.reverse c hc

/-- What is left after trimming the end is the beginning of the text. -/
theorem trimEndChars_prefix (cs : List Char) : trimEndChars cs <+: cs := by
  have hsuffix : cs.reverse.dropWhile isBlank <:+ cs.reverse := List.dropWhile_suffix isBlank
  simpa [trimEndChars] using List.reverse_prefix.2 hsuffix

theorem trimmed_trimChars (cs : List Char) : Trimmed (trimChars cs) := by
  refine ⟨?_, isBlank_getLast?_trimEndChars _⟩
  intro c hc
  obtain ⟨rest, hrest⟩ := trimEndChars_prefix (trimStartChars cs)
  rw [trimChars] at hc
  apply isBlank_head?_trimStartChars cs c
  rw [← hrest]
  cases hend : trimEndChars (trimStartChars cs) with
  | nil => simp [hend] at hc
  | cons d ds => simpa [hend] using hc

theorem Trimmed.trimChars_eq {cs : List Char} (h : Trimmed cs) : trimChars cs = cs := by
  rw [trimChars, trimStartChars_eq_self h.1, trimEndChars_eq_self h.2]

@[simp]
theorem trimChars_trimChars (cs : List Char) : trimChars (trimChars cs) = trimChars cs :=
  (trimmed_trimChars cs).trimChars_eq

theorem trimEndChars_append (xs ys : List Char) :
    trimEndChars (xs ++ ys) =
      if trimEndChars ys = [] then trimEndChars xs else xs ++ trimEndChars ys := by
  simp only [trimEndChars, List.reverse_append, List.dropWhile_append, List.isEmpty_iff,
    List.reverse_eq_nil_iff]
  split
  · rfl
  · rw [List.reverse_append, List.reverse_reverse]

/-- It does not matter which end is trimmed first. -/
theorem trimStartChars_trimEndChars (cs : List Char) :
    trimStartChars (trimEndChars cs) = trimChars cs := by
  induction cs with
  | nil => rfl
  | cons c cs ih =>
    have hend := trimEndChars_append [c] cs
    rw [List.singleton_append] at hend
    cases hblank : isBlank c with
    | true =>
      have hstart (ds : List Char) : trimStartChars (c :: ds) = trimStartChars ds := by
        simp [trimStartChars, hblank]
      have hsingle : trimEndChars [c] = [] := by simp [trimEndChars, hblank]
      rw [hsingle] at hend
      rw [trimChars, hstart, ← trimChars, ← ih, hend]
      split
      · next hnone => rw [hnone]
      · rw [List.singleton_append, hstart]
    | false =>
      have hstart (ds : List Char) : trimStartChars (c :: ds) = c :: ds := by
        simp [trimStartChars, hblank]
      have hsingle : trimEndChars [c] = [c] := by simp [trimEndChars, hblank]
      rw [hsingle] at hend
      rw [trimChars, hstart, hend]
      split
      · rw [hstart]
      · rw [List.singleton_append, hstart]

@[simp]
theorem trimChars_trimEndChars (cs : List Char) : trimChars (trimEndChars cs) = trimChars cs := by
  rw [← trimStartChars_trimEndChars, trimEndChars_eq_self (isBlank_getLast?_trimEndChars cs),
    trimStartChars_trimEndChars]

/-- Nothing is left of a text exactly if nothing is left of it after trimming one end. -/
theorem trimEndChars_eq_nil_iff (cs : List Char) : trimEndChars cs = [] ↔ trimChars cs = [] := by
  constructor
  · intro hnone
    rw [← trimStartChars_trimEndChars, hnone]
    rfl
  · intro hnone
    rw [← trimStartChars_trimEndChars, trimStartChars] at hnone
    have hall : (trimEndChars cs).all isBlank = true := by
      have htaken := List.takeWhile_append_dropWhile (p := isBlank) (l := trimEndChars cs)
      rw [hnone, List.append_nil] at htaken
      rw [← htaken]
      exact List.all_takeWhile
    -- the last character that is left is not blank, so there is none
    cases hlast : (trimEndChars cs).getLast? with
    | none => exact List.getLast?_eq_none_iff.1 hlast
    | some c =>
      have hblank : isBlank c = false := isBlank_getLast?_trimEndChars cs c hlast
      rw [List.all_eq_true.1 hall c (List.mem_of_getLast? hlast)] at hblank
      cases hblank

theorem mem_trimStartChars {cs : List Char} {c : Char} (hc : c ∈ cs) (hfilled : isBlank c = false) :
    c ∈ trimStartChars cs := by
  rw [← List.takeWhile_append_dropWhile (p := isBlank) (l := cs), List.mem_append] at hc
  rcases hc with hdropped | hkept
  · have hblank : isBlank c = true := List.all_eq_true.1 List.all_takeWhile c hdropped
    rw [hfilled] at hblank
    cases hblank
  · exact hkept

/-- Only blank characters are dropped. -/
theorem mem_trimChars {cs : List Char} {c : Char} (hc : c ∈ cs) (hfilled : isBlank c = false) :
    c ∈ trimChars cs := by
  have hstart : c ∈ (trimStartChars cs).reverse :=
    List.mem_reverse.2 (mem_trimStartChars hc hfilled)
  exact List.mem_reverse.2 (mem_trimStartChars hstart hfilled)

/-- A text of which trimming leaves nothing has blank characters only. -/
theorem isBlank_of_isBlankText {s : String} (h : isBlankText s = true) :
    ∀ c ∈ s.toList, isBlank c = true := by
  rw [isBlankText, List.isEmpty_iff] at h
  intro c hc
  rw [← Bool.not_eq_false]
  intro hfilled
  have hkept := mem_trimChars hc hfilled
  rw [h] at hkept
  cases hkept

/-- Blank characters around a text are trimmed with those of the text. -/
theorem trimChars_append_append {before after : List Char} (cs : List Char)
    (hbefore : ∀ c ∈ before, isBlank c = true) (hafter : ∀ c ∈ after, isBlank c = true) :
    trimChars (before ++ cs ++ after) = trimChars cs := by
  have hstart : trimStartChars (before ++ cs) = trimStartChars cs :=
    List.dropWhile_append_of_pos hbefore
  have hend : trimEndChars (before ++ cs ++ after) = trimEndChars (before ++ cs) := by
    have hreverse : ∀ c ∈ after.reverse, isBlank c = true := by simpa using hafter
    rw [trimEndChars, trimEndChars, List.reverse_append, List.dropWhile_append_of_pos hreverse]
  rw [← trimStartChars_trimEndChars, hend, trimStartChars_trimEndChars, trimChars, hstart, trimChars]

theorem trim_trim (s : String) : trim (trim s) = trim s := by
  rw [trim, trim, String.toList_ofList, trimChars_trimChars]

end TeamCalendar.Text
