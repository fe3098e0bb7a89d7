import TeamCalendar.Proofs.Proper

/-!
# Normalizing and validating

A new event is normalized before it is validated.  The two fit together: what is found good after
normalizing was good before, and a good event becomes bad only if its start and its end fall into
the same microsecond.

* `Instant.truncate_le_truncate` and `Instant.truncate_lt_truncate_iff` compare truncated instants.
* `Text.isBlankText_lower_trim` says that a type is blank exactly if its normal form is.
* `NewEvent.normalized_fits` puts the two together.
-/

namespace TeamCalendar

namespace Instant

variable {a b : Instant}

/-- The instants belong to the same microsecond, of a leap second if need be. -/
def SameMicrosecond (a b : Instant) : Prop :=
  a.second = b.second ∧ a.nano / 1000 = b.nano / 1000

/-- Truncating keeps the order. -/
theorem truncate_le_truncate (h : a ≤ b) : a.truncate ≤ b.truncate := by
  rw [le_def] at h ⊢
  simp only [truncate]
  rcases h with hsecond | ⟨hsecond, hnano⟩
  · exact Or.inl hsecond
  · exact Or.inr ⟨hsecond, by omega⟩

/-- Instants in the order of their truncated forms are in this order themselves. -/
theorem lt_of_truncate_lt_truncate (h : a.truncate < b.truncate) : a < b := by
  refine Decidable.byContradiction fun hnot => ?_
  exact not_lt.2 (truncate_le_truncate (not_lt.1 hnot)) h

/-- Truncating drops less than a microsecond. -/
theorem nano_lt_nano_truncate (t : Instant) : t.nano < t.truncate.nano + 1000 := by
  simp only [truncate]
  omega

/-- Of two instants in their order, the truncated forms are in this order or equal. -/
theorem truncate_lt_truncate_iff (h : a < b) :
    a.truncate < b.truncate ↔ ¬ SameMicrosecond a b := by
  rw [lt_def] at h ⊢
  rw [SameMicrosecond]
  simp only [truncate]
  omega

end Instant

namespace Text

theorem lowerChars_eq_nil_iff {cs : List Char} : lowerChars cs = [] ↔ cs = [] := by
  cases cs with
  | nil => exact iff_of_true rfl rfl
  | cons c cs =>
    have hne : lowerChars (c :: cs) ≠ [] := by
      rw [lowerChars, lowerFrom_cons]
      exact List.append_ne_nil_of_left_ne_nil (lowerImage_ne_nil _ _ _) _
    exact iff_of_false hne (List.cons_ne_nil c cs)

/-- A text is blank exactly if it is so when it is trimmed and brought into lower case. -/
theorem isBlankText_lower_trim (s : String) : isBlankText (lower (trim s)) = isBlankText s := by
  have htrimmed : Trimmed (lowerChars (trimChars s.toList)) :=
    (trimmed_trimChars s.toList).lowerChars
  rw [Bool.eq_iff_iff, isBlankText, isBlankText, lower, trim, String.toList_ofList,
    String.toList_ofList, htrimmed.trimChars_eq, List.isEmpty_iff, List.isEmpty_iff,
    lowerChars_eq_nil_iff]

end Text

namespace NewEvent

variable {event : NewEvent}

@[simp]
theorem normalized_normalized (event : NewEvent) :
    event.normalized.normalized = event.normalized := by
  simp only [normalized, Text.lower_trim_lower_trim, Instant.truncate_truncate]

/-- A normal form is judged by the event that it comes from, truncated times aside. -/
theorem validate_normalized (event : NewEvent) :
    event.normalized.validate =
      if event.teamId.isNil then .error .missingTeam
      else if Text.isBlankText event.title then .error .emptyTitle
      else if Text.isBlankText event.eventType then .error .emptyEventType
      else if event.startTime.truncate < event.endTime.truncate then .ok ()
      else .error .invalidTimeRange := by
  rw [validate, normalized, Text.isBlankText_lower_trim]

/-- An event is good if its normal form is. -/
theorem validate_of_normalized (h : event.normalized.validate = .ok ()) :
    event.validate = .ok () := by
  obtain ⟨hteam, htitle, htype, htimes⟩ := validate_eq_ok_iff.1 h
  simp only [normalized, Text.isBlankText_lower_trim] at hteam htitle htype htimes
  exact validate_eq_ok_iff.2 ⟨hteam, htitle, htype, Instant.lt_of_truncate_lt_truncate htimes⟩

/-- Normalizing can spoil the times of a good event, and nothing else. -/
theorem validate_normalized_of_validate (h : event.validate = .ok ()) :
    event.normalized.validate =
      if event.startTime.truncate < event.endTime.truncate then .ok ()
      else .error .invalidTimeRange := by
  obtain ⟨hteam, htitle, htype, -⟩ := validate_eq_ok_iff.1 h
  rw [validate_normalized, hteam, htitle, htype, if_neg Bool.false_ne_true,
    if_neg Bool.false_ne_true, if_neg Bool.false_ne_true]

/-- Normalizing twice is normalizing once.  It never moves a time on, moves it back by less than a
microsecond, and keeps the order of times.  An event is good if its normal form is.  The normal form
of a good event is good, unless its times fall into the same microsecond, which is then the flaw
that is found. -/
theorem normalized_fits (event : NewEvent) :
    event.normalized.normalized = event.normalized ∧
    (∀ a b : Instant, a ≤ b → a.truncate ≤ b.truncate) ∧
    (∀ t : Instant, t.truncate ≤ t ∧ t.truncate.second = t.second ∧
      t.nano < t.truncate.nano + 1000) ∧
    (event.normalized.validate = .ok () → event.validate = .ok ()) ∧
    (event.validate = .ok () →
      (Instant.SameMicrosecond event.startTime event.endTime →
        event.normalized.validate = .error .invalidTimeRange) ∧
      (¬ Instant.SameMicrosecond event.startTime event.endTime →
        event.normalized.validate = .ok ())) ∧
    event.normalized.title = event.title ∧ event.normalized.location = event.location ∧
    event.normalized.teamId = event.teamId := by
  have htitle : event.normalized.title = event.title := by rw [normalized]
  have hlocation : event.normalized.location = event.location := by rw [normalized]
  have hteam : event.normalized.teamId = event.teamId := by rw [normalized]
  refine ⟨normalized_normalized event, fun _ _ => Instant.truncate_le_truncate,
    fun t => ⟨t.truncate_le, rfl, t.nano_lt_nano_truncate⟩, validate_of_normalized, fun h => ?_,
    htitle, hlocation, hteam⟩
  obtain ⟨-, -, -, htimes⟩ := validate_eq_ok_iff.1 h
  have hspoiled := Instant.truncate_lt_truncate_iff htimes
  rw [validate_normalized_of_validate h]
  constructor
  · intro hsame
    exact if_neg fun hlt => hspoiled.1 hlt hsame
  · intro hapart
    exact if_pos (hspoiled.2 hapart)

end NewEvent

end TeamCalendar
