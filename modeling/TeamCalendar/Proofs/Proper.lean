import TeamCalendar.Event
import TeamCalendar.Proofs.Text.Lower

/-!
# Proper events

An event is proper if it is in normal form and has no flaw.  A new event that is found to have no
flaw is proper once it has been normalized, and a patch that is applied to a proper event leaves a
proper event, even if it gives only one of the two times.
-/

namespace TeamCalendar

/-- The event is in normal form and has no flaw. -/
structure NewEvent.Proper (event : NewEvent) : Prop where
  team : event.teamId ≠ .nil
  title : Text.isBlankText event.title = false
  eventType : Text.isBlankText event.eventType = false
  /-- The type stays as it is when it is trimmed and brought into lower case. -/
  normal : Text.lower (Text.trim event.eventType) = event.eventType
  ordered : event.startTime < event.endTime
  /-- The start has no part below a microsecond. -/
  startWhole : event.startTime.nano % 1000 = 0
  /-- The end has no part below a microsecond. -/
  endWhole : event.endTime.nano % 1000 = 0

theorem Id.isNil_eq_false_iff {kind : IdKind} {id : Id kind} : id.isNil = false ↔ id ≠ .nil := by
  cases id
  simp [isNil, nil]

theorem Instant.nano_truncate_mod (t : Instant) : t.truncate.nano % 1000 = 0 := by
  simp only [truncate]
  omega

namespace NewEvent

theorem validate_eq_ok_iff {event : NewEvent} :
    event.validate = .ok () ↔
      event.teamId.isNil = false ∧ Text.isBlankText event.title = false ∧
        Text.isBlankText event.eventType = false ∧ event.startTime < event.endTime := by
  unfold validate
  by_cases hteam : event.teamId.isNil = true
  · simp [hteam]
  · by_cases htitle : Text.isBlankText event.title = true
    · simp [hteam, htitle]
    · by_cases htype : Text.isBlankText event.eventType = true
      · simp [hteam, htitle, htype]
      · by_cases htimes : event.startTime < event.endTime
        · simp [hteam, htitle, htype, htimes]
        · simp [hteam, htitle, htype, htimes]

/-- What is stored of a new event without a flaw is proper. -/
theorem proper_normalized {new : NewEvent} (h : new.normalized.validate = .ok ()) :
    new.normalized.Proper := by
  obtain ⟨hteam, htitle, htype, htimes⟩ := validate_eq_ok_iff.1 h
  refine ⟨Id.isNil_eq_false_iff.1 hteam, htitle, htype, ?_, htimes, ?_, ?_⟩
  · rw [normalized]
    exact Text.lower_trim_lower_trim new.eventType
  · rw [normalized]
    exact Instant.nano_truncate_mod _
  · rw [normalized]
    exact Instant.nano_truncate_mod _

end NewEvent

namespace Patch

variable {patch : Patch} {event changed : Event}

theorem apply_eq_ok_iff :
    patch.apply event = .ok changed ↔
      patch.isEmpty = false ∧ patch.title.any Text.isBlankText = false ∧
        (patch.overlay event).startTime < (patch.overlay event).endTime ∧
        patch.overlay event = changed := by
  unfold apply
  by_cases hempty : patch.isEmpty = true
  · simp [hempty]
  · by_cases htitle : patch.title.any Text.isBlankText = true
    · simp [hempty, htitle]
    · by_cases htimes : (patch.overlay event).startTime < (patch.overlay event).endTime
      · simp [hempty, htitle, htimes]
      · simp [hempty, htitle, htimes]

@[simp]
theorem id_overlay (patch : Patch) (event : Event) : (patch.overlay event).id = event.id :=
  rfl

/-- A time is whole if it was whole before, for the times of a patch are truncated. -/
theorem nano_getD_truncate_mod (time : Option Instant) {old : Instant} (h : old.nano % 1000 = 0) :
    ((time.map Instant.truncate).getD old).nano % 1000 = 0 := by
  cases time with
  | none => exact h
  | some t => exact Instant.nano_truncate_mod t

/-- A changed event is proper if the old one was. -/
theorem proper_of_apply (hproper : event.toNewEvent.Proper) (h : patch.apply event = .ok changed) :
    changed.toNewEvent.Proper := by
  obtain ⟨-, htitle, htimes, rfl⟩ := apply_eq_ok_iff.1 h
  refine ⟨hproper.team, ?_, hproper.eventType, hproper.normal, htimes,
    nano_getD_truncate_mod patch.startTime hproper.startWhole,
    nano_getD_truncate_mod patch.endTime hproper.endWhole⟩
  cases hpatch : patch.title with
  | none => simpa [overlay, hpatch] using hproper.title
  | some title => simpa [overlay, hpatch] using htitle

end Patch

end TeamCalendar
