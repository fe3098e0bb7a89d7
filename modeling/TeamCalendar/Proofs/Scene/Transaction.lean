import TeamCalendar.Proofs.Scene.Consultation
import TeamCalendar.Proofs.Store.Batch

/-!
# Transactions of the store in a scene

A request writes between opening a transaction and closing it.  While it is open only the staged
rows change, so a body that fails leaves the committed tables as they were.
-/

namespace TeamCalendar

variable {α β : Type}

/-! ## What the store answers while a transaction is open -/

namespace Store

variable {store next : Store} {staged : Tables}

/-- The transaction that has staged the given rows. -/
def transaction (store : Store) (staged : Tables) : Transaction :=
  { committed := store.committed, staged }

theorem within_eq {act : Transaction → Except String α × Store} {value : Except String α}
    (hstaged : store.staged = some staged)
    (h : act (store.transaction staged) = (value, next)) : store.within act = (value, next) := by
  rw [within, transaction?, hstaged]
  exact h

theorem answer?_begin (hfree : store.staged = none) :
    answer? .begin store = some (.ok (), { store with staged := some {} }) := by
  change store.begin?.map _ = _
  rw [begin?, hfree]
  rfl

theorem answer?_begin_busy (hbusy : store.staged ≠ none) : answer? .begin store = none := by
  obtain ⟨staged, hstaged⟩ := Option.ne_none_iff_exists'.1 hbusy
  change store.begin?.map _ = _
  rw [begin?, hstaged]
  rfl

theorem answer?_commit (hstaged : store.staged = some staged) :
    answer? .commit store =
      some (.ok (), { store with
        committed := store.committed.overlay staged
        staged := none }) := by
  refine congrArg some (within_eq hstaged ?_)
  rw [commit, hstaged]
  rfl

/-- The event that is made of a new one. -/
def newEvent (store : Store) (new : NewEvent) : Event :=
  { new with id := store.ids.draw.1 }

@[simp]
theorem teamId_newEvent (store : Store) (new : NewEvent) :
    (store.newEvent new).teamId = new.teamId :=
  rfl

theorem answer?_insertEvent (hstaged : store.staged = some staged) (new : NewEvent) :
    answer? (.insertEvent new) store =
      some (.ok (store.newEvent new),
        { store with
          ids := (store.ids.draw : EventId × IdSource).2
          staged := some (staged.putEvent (store.newEvent new)) }) :=
  congrArg some (within_eq hstaged rfl)

theorem answer?_insertAttendance_ok (hstaged : store.staged = some staged)
    (hworking : store.failing = false) {records : List AttendanceRecord}
    (haccepts : (store.transaction staged).Accepts records) :
    answer? (.insertAttendance records) store =
      some (.ok records.length,
        { store with
          batches := store.batches + 1
          staged := some
            { staged with
              attendance := staged.attendance ∪ AttendanceRecord.tabulate records } }) := by
  have hbatch := Transaction.batch_eq_ok_iff.2 ⟨haccepts, rfl⟩
  refine congrArg some (within_eq hstaged ?_)
  simp only [insertAttendance, hworking, hbatch, Transaction.size_batch hbatch]
  rfl

theorem answer?_insertAttendance_error (hstaged : store.staged = some staged)
    {records : List AttendanceRecord}
    (h : store.failing = true ∨ ¬(store.transaction staged).Accepts records) :
    ∃ cause, answer? (.insertAttendance records) store =
      some (.error cause, { store with batches := store.batches + 1 }) := by
  cases hfailing : store.failing with
  | true =>
    refine ⟨AttendanceFault.injected.message, congrArg some (within_eq hstaged ?_)⟩
    simp only [insertAttendance, hfailing]
    rfl
  | false =>
    have hrejects : ¬(store.transaction staged).Accepts records := by simpa [hfailing] using h
    cases hbatch : (store.transaction staged).batch records with
    | ok batch => exact absurd (Transaction.batch_eq_ok_iff.1 hbatch).1 hrejects
    | error fault =>
      refine ⟨fault.message, congrArg some (within_eq hstaged ?_)⟩
      simp only [insertAttendance, hfailing, hbatch]
      rfl

/-- A transaction that has staged nothing sees what has been committed. -/
@[simp]
theorem event?_transaction_empty (store : Store) (id : EventId) :
    (store.transaction {}).event? id = store.committed.events[id]? := by
  simp [transaction, Transaction.event?]

@[simp]
theorem attendance?_transaction_empty (store : Store) (key : AttendanceKey) :
    (store.transaction {}).attendance? key = store.committed.attendance[key]? := by
  simp [transaction, Transaction.attendance?]

theorem answer?_lockEvent (hstaged : store.staged = some staged) {id : EventId}
    {found : Option Event} (hfound : (store.transaction staged).event? id = found) :
    answer? (.lockEvent id) store = some (.ok found, store) := by
  subst hfound
  exact congrArg some (within_eq hstaged rfl)

theorem answer?_updateEvent_true (hstaged : store.staged = some staged) {event row : Event}
    (hrow : (store.transaction staged).event? event.id = some row)
    (hteam : row.teamId = event.teamId) :
    answer? (.updateEvent event) store =
      some (.ok true, { store with staged := some (staged.putEvent event) }) := by
  refine congrArg some (within_eq hstaged ?_)
  simp only [Transaction.updateEvent?, hrow, if_pos hteam]
  rfl

theorem answer?_updateEvent_false (hstaged : store.staged = some staged) {event : Event}
    (h : ∀ row, (store.transaction staged).event? event.id = some row →
      row.teamId ≠ event.teamId) :
    answer? (.updateEvent event) store = some (.ok false, store) := by
  refine congrArg some (within_eq hstaged ?_)
  cases hrow : (store.transaction staged).event? event.id with
  | none => simp only [Transaction.updateEvent?, hrow]
  | some row => simp only [Transaction.updateEvent?, hrow, if_neg (h row hrow)]

theorem answer?_updateStatus_true (hstaged : store.staged = some staged) {eventId : EventId}
    {userId : UserId} {record : AttendanceRecord}
    (hrecord : (store.transaction staged).attendance? ⟨eventId, userId⟩ = some record)
    (status : Status) (now : Instant) :
    answer? (.updateStatus eventId userId status now) store =
      some (.ok true, { store with
        staged := some
          { staged with
            attendance := staged.attendance.insert ⟨eventId, userId⟩
              { record with status, updatedAt := now } } }) := by
  refine congrArg some (within_eq hstaged ?_)
  simp only [Transaction.updateStatus?, hrecord]
  rfl

theorem answer?_updateStatus_false (hstaged : store.staged = some staged) {eventId : EventId}
    {userId : UserId} (h : (store.transaction staged).attendance? ⟨eventId, userId⟩ = none)
    (status : Status) (now : Instant) :
    answer? (.updateStatus eventId userId status now) store = some (.ok false, store) := by
  refine congrArg some (within_eq hstaged ?_)
  simp only [Transaction.updateStatus?, h]

end Store

/-! ## Requests that write -/

namespace Scene

variable {c : Collaborators} {s s' : Scene}

/-- A storage that answers lets the request go on. -/
theorem run_stored_ok {value : α} {delay : Nat} :
    run c (Service.stored ⟨delay, .ok value⟩) s = some (.ok value, s) :=
  rfl

/-- A storage that fails ends the request. -/
theorem run_stored_error {cause : String} {delay : Nat} :
    run c (Service.stored ⟨delay, .error cause⟩ : Service α) s =
      some (.error (.storage cause), s.count .storageError) :=
  rfl

theorem run_findEvent_ok {id : EventId} {event : Event}
    (h : s.store.committed.events[id]? = some event) :
    run c (Service.findEvent id) s = some (.ok event, s.note (.storage (.findEvent id))) := by
  have hfind : Store.answer? (.findEvent id) s.store = some (.ok (some event), s.store) :=
    congrArg (fun found => some ((.ok found : Except String (Option Event)), s.store)) h
  unfold Service.findEvent
  refine (run_bind_ok (run_ask_storage hfind)).trans ?_
  exact run_bind_ok run_stored_ok

theorem run_findEvent_error {id : EventId} (h : s.store.committed.events[id]? = none) :
    run c (Service.findEvent id) s =
      some (.error (.notFound s!"event {id}"), s.note (.storage (.findEvent id))) := by
  have hfind : Store.answer? (.findEvent id) s.store = some (.ok none, s.store) :=
    congrArg (fun found => some ((.ok found : Except String (Option Event)), s.store)) h
  unfold Service.findEvent
  refine (run_bind_ok (run_ask_storage hfind)).trans ?_
  exact run_bind_ok run_stored_ok

/-- The scene after a transaction has been opened. -/
def begun (s : Scene) : Scene :=
  s.keep .begin { s.store with staged := some {} }

theorem run_inTransaction (hfree : s.store.staged = none) (body : Service α) :
    run c (Service.inTransaction body) s =
      run c (tryCatch
        (do
          let value ← body
          Service.stored (← Service.ask (.storage .commit))
          pure value)
        (fun refusal => do
          let _ ← Service.ask (.storage .rollback)
          throw refusal)) s.begun := by
  unfold Service.inTransaction
  refine (run_bind_ok (run_ask_storage (Store.answer?_begin hfree))).trans ?_
  exact run_bind_ok run_stored_ok

/-- A body that succeeds is committed. -/
theorem run_inTransaction_ok {body : Service α} {value : α} {staged : Tables}
    (hfree : s.store.staged = none) (hbody : run c body s.begun = some (.ok value, s'))
    (hstaged : s'.store.staged = some staged) :
    run c (Service.inTransaction body) s =
      some (.ok value, s'.keep .commit
        { s'.store with committed := s'.store.committed.overlay staged, staged := none }) := by
  have hcommit : run c (do
      let value ← body
      Service.stored (← Service.ask (.storage .commit))
      pure value) s.begun =
        some (.ok value, s'.keep .commit
          { s'.store with committed := s'.store.committed.overlay staged, staged := none }) := by
    refine (run_bind_ok hbody).trans ?_
    refine (run_bind_ok (run_ask_storage (Store.answer?_commit hstaged))).trans ?_
    exact run_bind_ok run_stored_ok
  rw [run_inTransaction hfree, run_tryCatch, hcommit]
  rfl

/-- A body that fails is rolled back. -/
theorem run_inTransaction_error {body : Service α} {refusal : Refusal}
    (hfree : s.store.staged = none) (hbody : run c body s.begun = some (.error refusal, s')) :
    run c (Service.inTransaction body) s =
      some (.error refusal, s'.keep .rollback { s'.store with staged := none }) := by
  rw [run_inTransaction hfree, run_tryCatch, run_bind_error hbody]
  rfl

/-- A request that wants to write waits for an open transaction. -/
theorem run_inTransaction_busy {body : Service α} (hbusy : s.store.staged ≠ none) :
    run c (Service.inTransaction body) s = none := by
  have hwait : run c (Service.ask (.storage .begin)) s = none := by
    change ((Store.answer? .begin s.store).map _).bind _ = _
    rw [Store.answer?_begin_busy hbusy]
    rfl
  exact run_bind_none hwait

end Scene

end TeamCalendar
