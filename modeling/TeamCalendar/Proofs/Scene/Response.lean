import TeamCalendar.Proofs.Scene.Outcome

/-!
# Responding to an event in a scene

The relation `Scene.Response` has one case for each way in which responding to an event may end.

* `Scene.run_respond` says that there are no other ends, except that the request may wait for an
  open transaction.
-/

namespace TeamCalendar

namespace Service

/-- Writes the status of a user for an event. -/
def writeStatus (id : EventId) (userId : UserId) (status : Status) : Service Unit := do
  let time ← now
  if ← stored (← ask (.storage (.updateStatus id userId status time))) then
    pure ()
  else
    throw (.notFound s!"attendance of user {userId} for event {id}")

theorem storeStatus_eq (id : EventId) (userId : UserId) (status : Status) :
    storeStatus id userId status = inTransaction (writeStatus id userId status) := by
  unfold storeStatus writeStatus
  rfl

end Service

namespace Scene

/-- How responding to an event may end. -/
inductive Response (c : Collaborators) (settings : RuntimeSettings) (requester : UserId)
    (id : EventId) (status : Status) (s : Scene) : Except Refusal Event → Scene → Prop where
  /-- There is no such event. -/
  | missing (hmissing : s.store.committed.events[id]? = none) :
    Response c settings requester id status s (.error (.notFound s!"event {id}"))
      (s.note (.storage (.findEvent id)))
  /-- The requester is not shown to have a permitted role. -/
  | denied {event : Event} {refusal : Refusal}
    (hevent : s.store.committed.events[id]? = some event)
    (hgate : c.gate settings requester event.teamId Role.readers = .error refusal) :
    Response c settings requester id status s (.error refusal)
      ((s.note (.storage (.findEvent id))).gated c settings requester event.teamId)
  /-- The requester has no attendance record for the event. -/
  | absent {event : Event} {role : Role} {s' : Scene}
    (hevent : s.store.committed.events[id]? = some event)
    (hgate : c.gate settings requester event.teamId Role.readers = .ok role)
    (habsent : s.store.committed.attendance[AttendanceKey.mk id requester]? = none)
    (hrefused : s.Refused (.notFound s!"attendance of user {requester} for event {id}") s')
    (hcalls : StoredAfter (.directory (.membership event.teamId [requester]) ::
      .storage (.findEvent id) :: s.calls) s') :
    Response c settings requester id status s
      (.error (.notFound s!"attendance of user {requester} for event {id}")) s'
  /-- The status has been written. -/
  | responded {event : Event} {role : Role} {record : AttendanceRecord} {time occurredAt : Instant}
    {s' : Scene} (hevent : s.store.committed.events[id]? = some event)
    (hgate : c.gate settings requester event.teamId Role.readers = .ok role)
    (hrecord : s.store.committed.attendance[AttendanceKey.mk id requester]? = some record)
    (hwrote : s.Wrote
      { s.store.committed with
        attendance := s.store.committed.attendance.insert ⟨id, requester⟩
          { record with status, updatedAt := time } }
      .attendanceResponse
      { kind := .attendanceUpdated, event, actorId := requester, attendanceStatus := some status,
        occurredAt } s')
    (hcalls : StoredAfter (.directory (.membership event.teamId [requester]) ::
      .storage (.findEvent id) :: s.calls) s') :
    Response c settings requester id status s (.ok event) s'

variable {c : Collaborators} {settings : RuntimeSettings} {requester : UserId} {id : EventId}
  {status : Status} {s : Scene}

/-- The scene after the status of a user was to be written at some time, which leaves the given
store. -/
def answered (s : Scene) (id : EventId) (userId : UserId) (status : Status) (time : Instant)
    (store : Store) : Scene :=
  (s.begun.note .now).keep (.updateStatus id userId status time) store

/-- A user without a record is told so. -/
theorem run_writeStatus_absent (c : Collaborators) (status : Status)
    (habsent : s.store.committed.attendance[AttendanceKey.mk id requester]? = none) :
    ∃ time, run c (Service.writeStatus id requester status) s.begun =
      some (.error (.notFound s!"attendance of user {requester} for event {id}"),
        s.answered id requester status time s.begun.store) := by
  have hstaged : (s.begun.note .now).store.staged = some {} := rfl
  have hupdate := Store.answer?_updateStatus_false hstaged
    ((Store.attendance?_transaction_empty _ _).trans habsent) status (c.clock s.begun.asked)
  refine ⟨c.clock s.begun.asked, ?_⟩
  unfold Service.writeStatus
  refine (run_bind_ok run_now).trans ?_
  refine (run_bind_ok (run_ask_storage hupdate)).trans ?_
  exact run_bind_ok run_stored_ok

/-- The record of the user gets the status. -/
theorem run_writeStatus_ok (c : Collaborators) (status : Status) {record : AttendanceRecord}
    (hrecord : s.store.committed.attendance[AttendanceKey.mk id requester]? = some record) :
    ∃ time, run c (Service.writeStatus id requester status) s.begun =
      some (.ok (), s.answered id requester status time
        { s.begun.store with
          staged := some
            { attendance := (∅ : Table AttendanceKey AttendanceRecord).insert ⟨id, requester⟩
                { record with status, updatedAt := time } } }) := by
  have hstaged : (s.begun.note .now).store.staged = some {} := rfl
  have hupdate := Store.answer?_updateStatus_true hstaged
    ((Store.attendance?_transaction_empty _ _).trans hrecord) status (c.clock s.begun.asked)
  refine ⟨c.clock s.begun.asked, ?_⟩
  unfold Service.writeStatus
  refine (run_bind_ok run_now).trans ?_
  refine (run_bind_ok (run_ask_storage hupdate)).trans ?_
  exact run_bind_ok run_stored_ok

/-- Nothing is written for a user without a record. -/
theorem run_inTransaction_writeStatus_absent (c : Collaborators) (status : Status)
    (hfree : s.store.staged = none)
    (habsent : s.store.committed.attendance[AttendanceKey.mk id requester]? = none) :
    ∃ s', run c (Service.inTransaction (Service.writeStatus id requester status)) s =
        some (.error (.notFound s!"attendance of user {requester} for event {id}"), s') ∧
      s.Refused (.notFound s!"attendance of user {requester} for event {id}") s' ∧
      StoredAfter s.calls s' := by
  obtain ⟨time, hbody⟩ := run_writeStatus_absent c status habsent
  exact ⟨_, run_inTransaction_error hfree hbody, ⟨⟨rfl, hfree.symm, rfl, rfl⟩, rfl⟩,
    [.rollback, .updateStatus id requester status time, .begin], rfl⟩

/-- The record of the user is committed with the status. -/
theorem run_inTransaction_writeStatus_ok (c : Collaborators) (status : Status)
    (hfree : s.store.staged = none) {record : AttendanceRecord}
    (hrecord : s.store.committed.attendance[AttendanceKey.mk id requester]? = some record) :
    ∃ time s', run c (Service.inTransaction (Service.writeStatus id requester status)) s =
        some (.ok (), s') ∧
      s.Committed
        { s.store.committed with
          attendance := s.store.committed.attendance.insert ⟨id, requester⟩
            { record with status, updatedAt := time } } s' ∧
      StoredAfter s.calls s' := by
  obtain ⟨time, hbody⟩ := run_writeStatus_ok c status hrecord
  exact ⟨time, _, run_inTransaction_ok hfree hbody rfl,
    ⟨Tables.overlay_record _ _ _, rfl, rfl, rfl, rfl⟩,
    [.commit, .updateStatus id requester status time, .begin], rfl⟩

theorem run_respond_missing (hmissing : s.store.committed.events[id]? = none) :
    run c (Service.respond settings requester id status) s =
      some (.error (.notFound s!"event {id}"), s.note (.storage (.findEvent id))) := by
  unfold Service.respond
  exact run_bind_error (run_findEvent_error hmissing)

theorem run_respond_denied {event : Event} {refusal : Refusal}
    (hevent : s.store.committed.events[id]? = some event)
    (hgate : c.gate settings requester event.teamId Role.readers = .error refusal) :
    run c (Service.respond settings requester id status) s =
      some (.error refusal,
        (s.note (.storage (.findEvent id))).gated c settings requester event.teamId) := by
  unfold Service.respond
  refine (run_bind_ok (run_findEvent_ok hevent)).trans ?_
  exact run_bind_error (run_authorize_error hgate)

theorem run_respond_permitted {event : Event} {role : Role}
    (hevent : s.store.committed.events[id]? = some event)
    (hgate : c.gate settings requester event.teamId Role.readers = .ok role) :
    run c (Service.respond settings requester id status) s =
      run c (do
        Service.inTransaction (Service.writeStatus id requester status)
        Service.count .attendanceResponse
        Service.publish .attendanceUpdated event requester (some status)
        pure event)
      ((s.note (.storage (.findEvent id))).note
        (.directory (.membership event.teamId [requester]))) := by
  unfold Service.respond
  rw [Service.storeStatus_eq]
  refine (run_bind_ok (run_findEvent_ok hevent)).trans ?_
  exact run_bind_ok (run_authorize_ok hgate)

/-- Responding to an event ends in one of the known ways, or waits for an open transaction. -/
theorem run_respond (c : Collaborators) (settings : RuntimeSettings) (requester : UserId)
    (id : EventId) (status : Status) (s : Scene) :
    (∃ result s', run c (Service.respond settings requester id status) s = some (result, s') ∧
      Response c settings requester id status s result s') ∨
    s.store.staged ≠ none ∧ run c (Service.respond settings requester id status) s = none := by
  cases hevent : s.store.committed.events[id]? with
  | none => exact Or.inl ⟨_, _, run_respond_missing hevent, .missing hevent⟩
  | some event =>
    cases hgate : c.gate settings requester event.teamId Role.readers with
    | error refusal =>
      exact Or.inl ⟨_, _, run_respond_denied hevent hgate, .denied hevent hgate⟩
    | ok role =>
      rw [run_respond_permitted hevent hgate]
      let gated := (s.note (.storage (.findEvent id))).note
        (.directory (.membership event.teamId [requester]))
      by_cases hfree : s.store.staged = none
      · left
        cases hrecord : s.store.committed.attendance[AttendanceKey.mk id requester]? with
        | none =>
          obtain ⟨s', hrun, hrefused, hcalls⟩ :=
            run_inTransaction_writeStatus_absent (s := gated) c status hfree hrecord
          refine ⟨_, s', run_bind_error hrun, ?_⟩
          exact .absent hevent hgate hrecord hrefused.of_note.of_note hcalls
        | some record =>
          obtain ⟨time, s', hrun, hcommitted, hcalls⟩ :=
            run_inTransaction_writeStatus_ok (s := gated) c status hfree hrecord
          obtain ⟨occurredAt, s'', hannounce, hstore, hasked, htally, hpublished⟩ := run_announce
          refine ⟨_, s'', (run_bind_ok hrun).trans hannounce, ?_⟩
          have hwrote := hcommitted.of_note.of_note.wrote hstore htally hpublished
          exact .responded hevent hgate hrecord hwrote (hcalls.of_calls_eq hasked)
      · exact Or.inr ⟨hfree, run_bind_none (run_inTransaction_busy hfree)⟩

/-- A response that is refused leaves everything as it was. -/
theorem Response.refused {c : Collaborators} {settings : RuntimeSettings} {requester : UserId}
    {id : EventId} {status : Status} {s s' : Scene} {refusal : Refusal}
    (h : s.Response c settings requester id status (.error refusal) s') :
    s.Refused refusal s' := by
  cases h with
  | missing => exact ⟨⟨rfl, rfl, rfl, rfl⟩, rfl⟩
  | denied hevent hgate => exact (refused_gated hgate).of_note
  | absent hevent hgate habsent hrefused => exact hrefused

/-- A response leaves no transaction open. -/
theorem Response.free {c : Collaborators} {settings : RuntimeSettings} {requester : UserId}
    {id : EventId} {status : Status} {s s' : Scene} {result : Except Refusal Event}
    (h : s.Response c settings requester id status result s')
    (hfree : s.store.staged = none) : s'.store.staged = none := by
  cases result with
  | error refusal => exact h.refused.staged.trans hfree
  | ok event =>
    cases h with
    | responded hevent hgate hrecord hwrote => exact hwrote.staged

end Scene

end TeamCalendar
