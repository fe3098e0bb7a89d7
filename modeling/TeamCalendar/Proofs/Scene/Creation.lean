import TeamCalendar.Proofs.Scene.Outcome

/-!
# Creating an event in a scene

The relation `Scene.Creation` has one case for each way in which creating an event may end.  A case
says what led to it, what the requester is told, and what the scene looks like afterwards.

* `Scene.run_createEvent` says that there are no other ends, except that the request may wait for an
  open transaction.
-/

namespace TeamCalendar

namespace Scene

/-- How creating an event may end. -/
inductive Creation (c : Collaborators) (settings : RuntimeSettings) (requester : UserId)
    (new : NewEvent) (s : Scene) : Except Refusal CreatedEvent → Scene → Prop where
  /-- The event has a flaw. -/
  | flawed {flaw : EventFlaw} (hflaw : new.normalized.validate = .error flaw) :
    Creation c settings requester new s (.error (.ofFlaw flaw)) s
  /-- The requester is not shown to have a permitted role. -/
  | denied {refusal : Refusal} (hvalid : new.normalized.validate = .ok ())
    (hgate : c.gate settings requester new.teamId settings.eventWriteRoles = .error refusal) :
    Creation c settings requester new s (.error refusal) (s.gated c settings requester new.teamId)
  /-- The members of the team are not told in time. -/
  | unlisted {role : Role} {cause : String} {s' : Scene}
    (hvalid : new.normalized.validate = .ok ())
    (hgate : c.gate settings requester new.teamId settings.eventWriteRoles = .ok role)
    (hlost : (c.roster new.teamId).Lost settings.deadline)
    (hrefused : s.Refused (.unavailable cause) s')
    (hcalls : s'.calls = .directory (.roster new.teamId) ::
      .directory (.membership new.teamId [requester]) :: s.calls) :
    Creation c settings requester new s (.error (.unavailable cause)) s'
  /-- The attendance records cannot be written. -/
  | unwritten {role : Role} {roster : List Member} {time : Instant} {cause : String} {s' : Scene}
    (hvalid : new.normalized.validate = .ok ())
    (hgate : c.gate settings requester new.teamId settings.eventWriteRoles = .ok role)
    (hroster : (c.roster new.teamId).Gives settings.deadline roster)
    (hmembers : roster ≠ [])
    (hfault : s.store.failing = true ∨
      ¬(s.store.transaction (Tables.putEvent {} (s.store.newEvent new.normalized))).Accepts
        (AttendanceRecord.cohort (s.store.newEvent new.normalized) roster time))
    (hrefused : s.Refused (.storage cause) s')
    (hcalls : StoredAfter (.directory (.roster new.teamId) ::
      .directory (.membership new.teamId [requester]) :: s.calls) s') :
    Creation c settings requester new s (.error (.storage cause)) s'
  /-- The event and a pending record for each user of the roster have been written. -/
  | created {role : Role} {roster : List Member} {records : List AttendanceRecord}
    {time occurredAt : Instant} {s' : Scene}
    (hvalid : new.normalized.validate = .ok ())
    (hgate : c.gate settings requester new.teamId settings.eventWriteRoles = .ok role)
    (hroster : (c.roster new.teamId).Gives settings.deadline roster)
    (hworking : roster = [] ∨ s.store.failing = false)
    (hrecords : records =
      AttendanceRecord.cohort (s.store.newEvent new.normalized) roster time)
    (hwrote : s.Wrote
      { s.store.committed.putEvent (s.store.newEvent new.normalized) with
        attendance := s.store.committed.attendance ∪ AttendanceRecord.tabulate records }
      (.eventCreated records.length)
      { kind := .eventCreated, event := s.store.newEvent new.normalized, actorId := requester,
        occurredAt } s')
    (hcalls : StoredAfter (.directory (.roster new.teamId) ::
      .directory (.membership new.teamId [requester]) :: s.calls) s') :
    Creation c settings requester new s
      (.ok { event := s.store.newEvent new.normalized, attendanceRows := records.length }) s'

/-! ### What is written for a new event -/

end Scene

@[simp]
theorem NewEvent.teamId_normalized (new : NewEvent) : new.normalized.teamId = new.teamId := by
  rw [normalized]

namespace Service

/-- Writes the attendance records of an event, if there are any. -/
def writeRecords (event : Event) (records : List AttendanceRecord) : Service CreatedEvent := do
  let attendanceRows ← if records.isEmpty then pure 0 else insertAttendance records
  pure { event, attendanceRows }

/-- Writes a new event with its attendance records. -/
def writeEvent (new : NewEvent) (roster : List Member) : Service CreatedEvent := do
  let event ← stored (← ask (.storage (.insertEvent new)))
  writeRecords event (AttendanceRecord.cohort event roster (← now))

theorem storeEvent_eq (settings : RuntimeSettings) (new : NewEvent) :
    storeEvent settings new = (do
      ofFlaw new.normalized.validate
      let roster ← roster settings new.normalized.teamId
      inTransaction (writeEvent new.normalized roster)) := by
  unfold storeEvent writeEvent writeRecords
  rfl

end Service

namespace Scene

section Creation

variable {c : Collaborators} {settings : RuntimeSettings} {requester : UserId} {new : NewEvent}
  {s : Scene} {event : Event} {records : List AttendanceRecord} {staged : Tables}

/-- The scene after records could not be written. -/
def unfilled (s : Scene) (records : List AttendanceRecord) : Scene :=
  (s.keep (.insertAttendance records) { s.store with batches := s.store.batches + 1 }).count
    .storageError

/-- The scene after records have been written over what is staged. -/
def filled (s : Scene) (staged : Tables) (records : List AttendanceRecord) : Scene :=
  s.keep (.insertAttendance records)
    { s.store with
      batches := s.store.batches + 1
      staged := some
        { staged with attendance := staged.attendance ∪ AttendanceRecord.tabulate records } }

/-- Nothing is kept of records that cannot be written. -/
theorem run_insertAttendance_error (hstaged : s.store.staged = some staged)
    (hfault : s.store.failing = true ∨ ¬(s.store.transaction staged).Accepts records) :
    ∃ cause, run c (Service.insertAttendance records) s =
      some (.error (.storage cause), s.unfilled records) := by
  obtain ⟨cause, hanswer⟩ := Store.answer?_insertAttendance_error hstaged hfault
  refine ⟨cause, ?_⟩
  unfold Service.insertAttendance
  refine (run_bind_ok (run_ask_storage hanswer)).trans ?_
  exact run_bind_error run_stored_error

/-- All records are written, and their number is the expected one. -/
theorem run_insertAttendance_ok (hstaged : s.store.staged = some staged)
    (hworking : s.store.failing = false)
    (haccepts : (s.store.transaction staged).Accepts records) :
    run c (Service.insertAttendance records) s =
      some (.ok records.length, s.filled staged records) := by
  have hanswer := Store.answer?_insertAttendance_ok hstaged hworking haccepts
  unfold Service.insertAttendance
  refine (run_bind_ok (run_ask_storage hanswer)).trans ?_
  refine (run_bind_ok run_stored_ok).trans ?_
  rw [if_pos rfl]
  rfl

theorem run_writeRecords_nil (event : Event) (s : Scene) :
    run c (Service.writeRecords event []) s = some (.ok { event, attendanceRows := 0 }, s) :=
  rfl

theorem run_writeRecords_error (event : Event) (hrecords : records ≠ [])
    (hstaged : s.store.staged = some staged)
    (hfault : s.store.failing = true ∨ ¬(s.store.transaction staged).Accepts records) :
    ∃ cause, run c (Service.writeRecords event records) s =
      some (.error (.storage cause), s.unfilled records) := by
  obtain ⟨cause, hinsert⟩ := run_insertAttendance_error hstaged hfault
  refine ⟨cause, ?_⟩
  unfold Service.writeRecords
  rw [if_neg (by rwa [List.isEmpty_iff])]
  exact run_bind_error hinsert

theorem run_writeRecords_ok (event : Event) (hrecords : records ≠ [])
    (hstaged : s.store.staged = some staged)
    (hworking : s.store.failing = false)
    (haccepts : (s.store.transaction staged).Accepts records) :
    run c (Service.writeRecords event records) s =
      some (.ok { event, attendanceRows := records.length }, s.filled staged records) := by
  unfold Service.writeRecords
  rw [if_neg (by rwa [List.isEmpty_iff])]
  exact run_bind_ok (run_insertAttendance_ok hstaged hworking haccepts)

/-- The scene after a new event has been written within a new transaction, and the time asked for.
-/
def inserted (s : Scene) (new : NewEvent) : Scene :=
  (s.begun.keep (.insertEvent new)
    { s.begun.store with
      ids := (s.store.ids.draw : EventId × IdSource).2
      staged := some (Tables.putEvent {} (s.store.newEvent new)) }).note .now

/-- The event is written first; what is left is to write the records. -/
theorem run_writeEvent (c : Collaborators) (s : Scene) (new : NewEvent) (roster : List Member) :
    ∃ time, run c (Service.writeEvent new roster) s.begun =
      run c (Service.writeRecords (s.store.newEvent new)
        (AttendanceRecord.cohort (s.store.newEvent new) roster time)) (s.inserted new) := by
  have hstaged : s.begun.store.staged = some {} := rfl
  refine ⟨c.clock (.storage (.insertEvent new) :: .storage .begin :: s.asked), ?_⟩
  unfold Service.writeEvent
  refine (run_bind_ok (run_ask_storage (Store.answer?_insertEvent hstaged new))).trans ?_
  refine (run_bind_ok run_stored_ok).trans ?_
  exact run_bind_ok run_now

/-- Either the records cannot be written, and then nothing has been written, or all is committed. -/
theorem run_inTransaction_writeEvent (c : Collaborators) (hfree : s.store.staged = none)
    (new : NewEvent) (roster : List Member) :
    (∃ cause time s', run c (Service.inTransaction (Service.writeEvent new roster)) s =
        some (.error (.storage cause), s') ∧ roster ≠ [] ∧
      (s.store.failing = true ∨
        ¬(s.store.transaction (Tables.putEvent {} (s.store.newEvent new))).Accepts
          (AttendanceRecord.cohort (s.store.newEvent new) roster time)) ∧
      s.Refused (.storage cause) s' ∧ StoredAfter s.calls s') ∨
    (∃ time s',
      let records := AttendanceRecord.cohort (s.store.newEvent new) roster time
      run c (Service.inTransaction (Service.writeEvent new roster)) s =
        some (.ok { event := s.store.newEvent new, attendanceRows := records.length }, s') ∧
      (roster = [] ∨ s.store.failing = false) ∧
      s.Committed
        { s.store.committed.putEvent (s.store.newEvent new) with
          attendance := s.store.committed.attendance ∪ AttendanceRecord.tabulate records } s' ∧
      StoredAfter s.calls s') := by
  obtain ⟨time, hwrite⟩ := run_writeEvent c s new roster
  let records := AttendanceRecord.cohort (s.store.newEvent new) roster time
  by_cases hempty : roster = []
  -- without members no records are written, so that the storage cannot refuse them
  · subst hempty
    have hbody := hwrite.trans (run_writeRecords_nil _ _)
    refine Or.inr ⟨time, _, run_inTransaction_ok hfree hbody rfl, Or.inl rfl, ?_,
      [.commit, .insertEvent new, .begin], rfl⟩
    refine ⟨?_, rfl, rfl, rfl, rfl⟩
    exact (Tables.overlay_putEvent _ _).trans
      (congrArg (Tables.mk _) (Table.union_empty _).symm)
  · have hrecords : records ≠ [] := fun h => hempty (AttendanceRecord.cohort_eq_nil_iff.1 h)
    by_cases hfault : s.store.failing = true ∨
        ¬(s.store.transaction (Tables.putEvent {} (s.store.newEvent new))).Accepts records
    · obtain ⟨cause, hfail⟩ :=
        run_writeRecords_error (c := c) (s := s.inserted new) (s.store.newEvent new) hrecords rfl
          hfault
      have hrun := run_inTransaction_error hfree (hwrite.trans hfail)
      refine Or.inl ⟨cause, time, _, hrun, hempty, hfault, ?_,
        [.rollback, .insertAttendance records, .insertEvent new, .begin], rfl⟩
      exact ⟨⟨rfl, hfree.symm, rfl, rfl⟩, rfl⟩
    · rw [not_or, Bool.not_eq_true, not_not] at hfault
      have hfill := run_writeRecords_ok (c := c) (s := s.inserted new)
        (s.store.newEvent new) hrecords rfl hfault.1 hfault.2
      have hrun := run_inTransaction_ok hfree (hwrite.trans hfill) rfl
      refine Or.inr ⟨time, _, hrun, Or.inr hfault.1, ?_,
        [.commit, .insertAttendance records, .insertEvent new, .begin], rfl⟩
      exact ⟨Tables.overlay_putEvent_batch _ _ _, rfl, rfl, rfl, rfl⟩

theorem run_storeEvent_unlisted (hvalid : new.normalized.validate = .ok ()) {refusal : Refusal}
    (hverdict : (c.roster new.teamId).verdict settings.deadline "team_summary" = .error refusal) :
    run c (Service.storeEvent settings new) s =
      some (.error refusal, s.consulted (.roster new.teamId)
        ((c.roster new.teamId).verdict settings.deadline "team_summary")) := by
  have hroster := run_roster c settings new.teamId s
  simp only [hverdict] at hroster ⊢
  rw [Service.storeEvent_eq, NewEvent.teamId_normalized]
  exact (run_bind_ok (run_ofFlaw_ok hvalid)).trans (run_bind_error hroster)

theorem run_storeEvent_listed (hvalid : new.normalized.validate = .ok ()) {roster : List Member}
    (hgives : (c.roster new.teamId).Gives settings.deadline roster) :
    run c (Service.storeEvent settings new) s =
      run c (Service.inTransaction (Service.writeEvent new.normalized roster))
        (s.note (.directory (.roster new.teamId))) := by
  have hroster := run_roster c settings new.teamId s
  simp only [Timed.verdict_eq_ok_iff.2 hgives] at hroster
  rw [Service.storeEvent_eq, NewEvent.teamId_normalized]
  exact (run_bind_ok (run_ofFlaw_ok hvalid)).trans (run_bind_ok hroster)

theorem run_createEvent_flawed {flaw : EventFlaw}
    (hflaw : new.normalized.validate = .error flaw) :
    run c (Service.createEvent settings requester new) s = some (.error (.ofFlaw flaw), s) := by
  unfold Service.createEvent
  exact run_bind_error (run_ofFlaw_error hflaw)

theorem run_createEvent_denied (hvalid : new.normalized.validate = .ok ()) {refusal : Refusal}
    (hgate : c.gate settings requester new.teamId settings.eventWriteRoles = .error refusal) :
    run c (Service.createEvent settings requester new) s =
      some (.error refusal, s.gated c settings requester new.teamId) := by
  unfold Service.createEvent
  refine (run_bind_ok (run_ofFlaw_ok hvalid)).trans ?_
  exact run_bind_error (run_authorize_error hgate)

theorem run_createEvent_permitted (hvalid : new.normalized.validate = .ok ()) {role : Role}
    (hgate : c.gate settings requester new.teamId settings.eventWriteRoles = .ok role) :
    run c (Service.createEvent settings requester new) s =
      run c (do
        let created ← Service.storeEvent settings new
        Service.count (.eventCreated created.attendanceRows)
        Service.publish .eventCreated created.event requester none
        pure created) (s.note (.directory (.membership new.teamId [requester]))) := by
  unfold Service.createEvent
  refine (run_bind_ok (run_ofFlaw_ok hvalid)).trans ?_
  exact run_bind_ok (run_authorize_ok hgate)

/-- Creating an event ends in one of the known ways, or waits for an open transaction. -/
theorem run_createEvent (c : Collaborators) (settings : RuntimeSettings) (requester : UserId)
    (new : NewEvent) (s : Scene) :
    (∃ result s', run c (Service.createEvent settings requester new) s = some (result, s') ∧
      Creation c settings requester new s result s') ∨
    s.store.staged ≠ none ∧ run c (Service.createEvent settings requester new) s = none := by
  cases hvalid : new.normalized.validate with
  | error flaw => exact Or.inl ⟨_, s, run_createEvent_flawed hvalid, .flawed hvalid⟩
  | ok =>
    cases hgate : c.gate settings requester new.teamId settings.eventWriteRoles with
    | error refusal =>
      exact Or.inl ⟨_, _, run_createEvent_denied hvalid hgate, .denied hvalid hgate⟩
    | ok role =>
      rw [run_createEvent_permitted hvalid hgate]
      cases hverdict : (c.roster new.teamId).verdict settings.deadline "team_summary" with
      | error refusal =>
        obtain ⟨hlost, cause, rfl⟩ := Timed.exists_eq_unavailable_of_verdict hverdict
        refine Or.inl ⟨_, _, run_bind_error (run_storeEvent_unlisted hvalid hverdict), ?_⟩
        exact .unlisted hvalid hgate hlost (refused_consulted hverdict).of_note
          (calls_consulted _ _)
      | ok roster =>
        have hroster := Timed.verdict_eq_ok_iff.1 hverdict
        let gated := s.note (.directory (.membership new.teamId [requester]))
        let listed := gated.note (.directory (.roster new.teamId))
        have hlisted := run_storeEvent_listed (s := gated) hvalid hroster
        by_cases hfree : s.store.staged = none
        · left
          rcases run_inTransaction_writeEvent c (s := listed) hfree new.normalized roster with
            ⟨cause, time, s', hrun, hmembers, hfault, hrefused, hcalls⟩ |
            ⟨time, s', hrun, hworking, hcommitted, hcalls⟩
          · refine ⟨_, s', run_bind_error (hlisted.trans hrun), ?_⟩
            exact .unwritten hvalid hgate hroster hmembers hfault hrefused.of_note.of_note hcalls
          · obtain ⟨occurredAt, s'', hannounce, hstore, hasked, htally, hpublished⟩ :=
              run_announce
            refine ⟨_, s'', (run_bind_ok (hlisted.trans hrun)).trans hannounce, ?_⟩
            have hwrote := hcommitted.of_note.of_note.wrote hstore htally hpublished
            exact .created hvalid hgate hroster hworking rfl hwrote (hcalls.of_calls_eq hasked)
        · refine Or.inr ⟨hfree, ?_⟩
          exact run_bind_none (hlisted.trans (run_inTransaction_busy hfree))

end Creation

/-- A creation that is refused leaves everything as it was. -/
theorem Creation.refused {c : Collaborators} {settings : RuntimeSettings} {requester : UserId}
    {new : NewEvent} {s s' : Scene} {refusal : Refusal}
    (h : s.Creation c settings requester new (.error refusal) s') : s.Refused refusal s' := by
  cases h with
  | flawed => exact ⟨⟨rfl, rfl, rfl, rfl⟩, rfl⟩
  | denied hvalid hgate => exact refused_gated hgate
  | unlisted hvalid hgate hlost hrefused => exact hrefused
  | unwritten hvalid hgate hroster hmembers hfault hrefused => exact hrefused

/-- A creation leaves no transaction open. -/
theorem Creation.free {c : Collaborators} {settings : RuntimeSettings} {requester : UserId}
    {new : NewEvent} {s s' : Scene} {result : Except Refusal CreatedEvent}
    (h : s.Creation c settings requester new result s') (hfree : s.store.staged = none) :
    s'.store.staged = none := by
  cases result with
  | error refusal => exact h.refused.staged.trans hfree
  | ok created =>
    cases h with
    | created hvalid hgate hroster hworking hrecords hwrote => exact hwrote.staged

end Scene

end TeamCalendar
