import TeamCalendar.Proofs.Store.Batch
import TeamCalendar.Proofs.Store.Overlay

/-!
# A store that copies its tables

A plain way to have transactions is to copy both tables when one is opened, to work on the copy, and
to put it in place of the tables in the end.

* `CopyingStore.serve` says how a store that copies answers calls.
* `CopyingStore.serve_insertAttendance_of_accepts` and its counterpart say when it takes attendance
  records.
* `CopyingStore.tables_after_of_not_mem`, `CopyingStore.after_commit` and
  `CopyingStore.answer?_eq_none_iff` say what is seen of a transaction from outside, and when one
  has to wait.
-/

namespace TeamCalendar

/-- What a store is asked: the questions of the service, and what is asked of it from outside. -/
inductive StoreCall where
  | ask (q : Storage.Question)
  | eventCount
  | teamEventCount (teamId : TeamId)
  | attendanceCount
  | batchCount
  | setFailing (failing : Bool)

namespace StoreCall

/-- The answer to a call. -/
def Answer : StoreCall → Type
  | ask q => Storage.Answer q
  | eventCount | teamEventCount _ | attendanceCount | batchCount => Nat
  | setFailing _ => Unit

/-- Whether a call tells of the committed tables and does nothing else. -/
def isReading : StoreCall → Bool
  | ask (.findEvent _) | ask (.listTeamEvents _) | ask (.listAttendance _) => true
  | eventCount | teamEventCount _ | attendanceCount => true
  | _ => false

/-- Whether a transaction is open after a call, given whether one was open before. -/
def leavesOpen (isOpen : Bool) : StoreCall → Bool
  | ask .begin => true
  | ask .commit | ask .rollback => false
  | _ => isOpen

/-- Whether a transaction is open after some calls: one has been opened, and not been closed since.
-/
def leaveOpen (calls : List StoreCall) : Bool :=
  calls.foldl leavesOpen false

section Serving

variable {σ : Type}

/-- The state after some calls.  A call that is refused changes nothing. -/
def after (serve : (call : StoreCall) → StateT σ Option call.Answer) (calls : List StoreCall)
    (state : σ) : σ :=
  calls.foldl (fun state call => ((serve call state).map (·.2)).getD state) state

/-- The answer to a call; none if it is refused. -/
def answer? (serve : (call : StoreCall) → StateT σ Option call.Answer) (call : StoreCall)
    (state : σ) : Option call.Answer :=
  (serve call state).map (·.1)

/-- The answers to calls that follow one another. -/
def answers (serve : (call : StoreCall) → StateT σ Option call.Answer) :
    List StoreCall → σ → List ((call : StoreCall) × Option call.Answer)
  | [], _ => []
  | call :: calls, state =>
    ⟨call, answer? serve call state⟩ :: answers serve calls (after serve [call] state)

variable (serve : (call : StoreCall) → StateT σ Option call.Answer)

theorem after_singleton (call : StoreCall) (state : σ) :
    after serve [call] state = ((serve call state).map (·.2)).getD state :=
  rfl

theorem after_cons (call : StoreCall) (calls : List StoreCall) (state : σ) :
    after serve (call :: calls) state = after serve calls (after serve [call] state) :=
  rfl

theorem after_append (calls more : List StoreCall) (state : σ) :
    after serve (calls ++ more) state = after serve more (after serve calls state) :=
  List.foldl_append

end Serving

end StoreCall

/-- Answers a call; none if it has to wait for the open transaction to be closed. -/
def Store.serve (call : StoreCall) : StateT Store Option call.Answer :=
  fun store =>
    match call with
    | .ask q => Store.answer? q store
    | .eventCount => some (store.committed.events.size, store)
    | .teamEventCount teamId => some (store.teamEventCount teamId, store)
    | .attendanceCount => some (store.committed.attendance.size, store)
    | .batchCount => some (store.batches, store)
    | .setFailing failing => some ((), store.setFailing failing)

/-! ## The store that copies -/

namespace Tables

/-- Finds the first record that cannot be added to the tables after records with the given keys: its
event is not there, or its key is taken. -/
def check (tables : Tables) (earlier : List AttendanceKey) :
    List AttendanceRecord → Except AttendanceFault Unit
  | [] => .ok ()
  | record :: records =>
    if record.eventId ∉ tables.events then .error (.unknownEvent record.eventId)
    else if record.key ∈ earlier ∨ record.key ∈ tables.attendance then
      .error (.duplicate record.key)
    else tables.check (record.key :: earlier) records

/-- Adds attendance records. -/
def putRecords (tables : Tables) (records : List AttendanceRecord) : Tables :=
  { tables with attendance := AttendanceRecord.tabulate records tables.attendance }

/-- Sets the status in an attendance record, if it is there. -/
def putStatus? (tables : Tables) (key : AttendanceKey) (status : Status) (now : Instant) :
    Option Tables :=
  (tables.attendance[key]?).map fun record =>
    { tables with
      attendance := tables.attendance.insert key { record with status, updatedAt := now } }

/-- Puts an event in the place of one with its identifier and its team, if it is there. -/
def replaceEvent? (tables : Tables) (event : Event) : Option Tables :=
  (tables.events[event.id]?).bind fun current =>
    if current.teamId = event.teamId then some (tables.putEvent event) else none

end Tables

/-- A store that copies its tables when a transaction is opened. -/
structure CopyingStore where
  tables : Tables := {}
  /-- What the open transaction works on. -/
  copy? : Option Tables := none
  failing : Bool := false
  batches : Nat := 0
  ids : IdSource := {}

namespace CopyingStore

/-- Answers a question with the copy of the open transaction. -/
def withCopy {α : Type} (store : CopyingStore)
    (act : Tables → Except String α × CopyingStore) : Except String α × CopyingStore :=
  match store.copy? with
  | some copy => act copy
  | none => (.error Store.noTransaction, store)

/-- Adds attendance records to the copy, all or none. -/
def insertAttendance (store : CopyingStore) (copy : Tables) (records : List AttendanceRecord) :
    Except String Nat × CopyingStore :=
  let store := { store with batches := store.batches + 1 }
  if store.failing then
    (.error AttendanceFault.injected.message, store)
  else
    match copy.check [] records with
    | .ok () => (.ok records.length, { store with copy? := some (copy.putRecords records) })
    | .error fault => (.error fault.message, store)

/-- Goes on with a changed copy and says whether there is one. -/
def settle (store : CopyingStore) (changed? : Option Tables) : Except String Bool × CopyingStore :=
  match changed? with
  | some changed => (.ok true, { store with copy? := some changed })
  | none => (.ok false, store)

/-- Answers a question; none if it has to wait for the open transaction to be closed. -/
def reply? (q : Storage.Question) : StateT CopyingStore Option (Storage.Answer q) :=
  fun store =>
    match q with
    | .begin =>
      match store.copy? with
      | none => some (.ok (), { store with copy? := some store.tables })
      | some _ => none
    | .findEvent id => some (.ok store.tables.events[id]?, store)
    | .listTeamEvents teamId => some (.ok (store.tables.teamEvents teamId), store)
    | .listAttendance id => some (.ok (store.tables.eventAttendance id), store)
    | .ping => some (.ok (), store)
    | .insertEvent new =>
      some <| store.withCopy fun copy =>
        let (id, ids) := store.ids.draw
        let event : Event := { new with id }
        (.ok event, { store with ids, copy? := some (copy.putEvent event) })
    | .insertAttendance records =>
      some <| store.withCopy fun copy => store.insertAttendance copy records
    | .lockEvent id => some <| store.withCopy fun copy => (.ok copy.events[id]?, store)
    | .updateEvent event =>
      some <| store.withCopy fun copy => store.settle (copy.replaceEvent? event)
    | .updateStatus eventId userId status now =>
      some <| store.withCopy fun copy =>
        store.settle (copy.putStatus? ⟨eventId, userId⟩ status now)
    | .commit =>
      some <| store.withCopy fun copy => (.ok (), { store with tables := copy, copy? := none })
    | .rollback => some ((), { store with copy? := none })

/-- Answers a call; none if it has to wait for the open transaction to be closed. -/
def serve (call : StoreCall) : StateT CopyingStore Option call.Answer :=
  fun store =>
    match call with
    | .ask q => reply? q store
    | .eventCount => some (store.tables.events.size, store)
    | .teamEventCount teamId =>
      some ((store.tables.events.values.filter (·.teamId = teamId)).length, store)
    | .attendanceCount => some (store.tables.attendance.size, store)
    | .batchCount => some (store.batches, store)
    | .setFailing failing => some ((), { store with failing })

end CopyingStore

/-! ## What a store that copies does -/

namespace Tables

/-- A check finds nothing exactly if every record is about an event that is there, no two records
have the same key, and no key is taken. -/
theorem check_eq_ok_iff {tables : Tables} {earlier : List AttendanceKey}
    {records : List AttendanceRecord} :
    tables.check earlier records = .ok () ↔
      (∀ record ∈ records, record.eventId ∈ tables.events) ∧ (records.map (·.key)).Nodup ∧
        ∀ record ∈ records, record.key ∉ earlier ∧ record.key ∉ tables.attendance := by
  induction records generalizing earlier with
  | nil => simp [check]
  | cons record records ih =>
    rw [check]
    split
    · next hunknown => simp [hunknown]
    · next hknown =>
      split
      · next htaken =>
        constructor
        · intro h
          cases h
        · rintro ⟨-, -, hfree⟩
          have hrecord := hfree record List.mem_cons_self
          exact absurd htaken (not_or.2 hrecord)
      · next hfree =>
        rw [not_not] at hknown
        rw [not_or] at hfree
        rw [ih, List.map_cons, List.nodup_cons, List.forall_mem_cons, List.forall_mem_cons]
        simp only [List.mem_cons, not_or, List.mem_map, not_exists, not_and]
        constructor
        · rintro ⟨hevents, hnodup, hkeys⟩
          exact ⟨⟨hknown, hevents⟩, ⟨fun other hother => (hkeys other hother).1.1, hnodup⟩, hfree,
            fun other hother => ⟨(hkeys other hother).1.2, (hkeys other hother).2⟩⟩
        · rintro ⟨⟨-, hevents⟩, ⟨hkey, hnodup⟩, -, hkeys⟩
          exact ⟨hevents, hnodup, fun other hother =>
            ⟨⟨hkey other hother, (hkeys other hother).1⟩, (hkeys other hother).2⟩⟩

end Tables

namespace CopyingStore

variable {store : CopyingStore}

/-- What it takes for records to be added: no failure is set up, every record is about an event of
the copy, and the keys are different from each other and not taken in the copy. -/
def Accepts (store : CopyingStore) (copy : Tables) (records : List AttendanceRecord) : Prop :=
  store.failing = false ∧
    (∀ record ∈ records, record.eventId ∈ copy.events) ∧
    (records.map (·.key)).Nodup ∧ ∀ record ∈ records, record.key ∉ copy.attendance

theorem accepts_iff {copy : Tables} {records : List AttendanceRecord} :
    store.Accepts copy records ↔ store.failing = false ∧ copy.check [] records = .ok () := by
  rw [Tables.check_eq_ok_iff, Accepts]
  simp only [List.not_mem_nil, not_false_eq_true, true_and]

theorem insertAttendance_of_accepts {copy : Tables} {records : List AttendanceRecord}
    (h : store.Accepts copy records) :
    store.insertAttendance copy records =
      (.ok records.length,
        { store with batches := store.batches + 1, copy? := some (copy.putRecords records) }) := by
  obtain ⟨hfailing, hcheck⟩ := accepts_iff.1 h
  simp only [insertAttendance, hfailing, hcheck]
  rfl

theorem insertAttendance_of_not_accepts {copy : Tables} {records : List AttendanceRecord}
    (h : ¬ store.Accepts copy records) :
    ∃ text, store.insertAttendance copy records =
      (.error text, { store with batches := store.batches + 1 }) := by
  cases hfailing : store.failing with
  | true =>
    refine ⟨AttendanceFault.injected.message, ?_⟩
    simp only [insertAttendance, hfailing, if_true]
  | false =>
    cases hcheck : copy.check [] records with
    | error fault =>
      refine ⟨fault.message, ?_⟩
      simp only [insertAttendance, hfailing, hcheck]
      rfl
    | ok => exact absurd (accepts_iff.2 ⟨hfailing, hcheck⟩) h

theorem serve_insertAttendance {copy : Tables} (hcopy : store.copy? = some copy)
    (records : List AttendanceRecord) :
    serve (.ask (.insertAttendance records)) store =
      some (store.insertAttendance copy records) := by
  simp only [serve, reply?, withCopy, hcopy]
  rfl

/-- Records that can be added are all added, and what else is in the copy stays there. -/
theorem serve_insertAttendance_of_accepts {copy : Tables} {records : List AttendanceRecord}
    (hcopy : store.copy? = some copy) (haccepts : store.Accepts copy records) :
    ∃ written : Tables,
      serve (.ask (.insertAttendance records)) store =
        some (.ok records.length,
          { store with batches := store.batches + 1, copy? := some written }) ∧
      written.events = copy.events ∧
      (∀ record ∈ records, written.attendance[record.key]? = some record) ∧
      ∀ key ∉ records.map (·.key), written.attendance[key]? = copy.attendance[key]? := by
  refine ⟨copy.putRecords records, ?_, rfl, fun record hrecord => ?_, fun key hkey => ?_⟩
  · rw [serve_insertAttendance hcopy]
    exact congrArg some (insertAttendance_of_accepts haccepts)
  · exact AttendanceRecord.getElem?_tabulate_of_mem hrecord haccepts.2.2.1 _
  · exact AttendanceRecord.getElem?_tabulate_of_not_mem hkey _

/-- If one record cannot be added, none is, and the copy stays as it is. -/
theorem serve_insertAttendance_of_not_accepts {copy : Tables} {records : List AttendanceRecord}
    (hcopy : store.copy? = some copy) (haccepts : ¬ store.Accepts copy records) :
    ∃ text, serve (.ask (.insertAttendance records)) store =
      some (.error text, { store with batches := store.batches + 1 }) := by
  rw [serve_insertAttendance hcopy]
  obtain ⟨text, htext⟩ := insertAttendance_of_not_accepts haccepts
  exact ⟨text, congrArg some htext⟩

/-- One store has the tables of another one, and a copy if the other one has one. -/
def Keeps (store other : CopyingStore) : Prop :=
  other.tables = store.tables ∧ other.copy?.isSome = store.copy?.isSome

theorem Keeps.refl (store : CopyingStore) : store.Keeps store :=
  ⟨rfl, rfl⟩

theorem keeps_withCopy {α : Type} {act : Tables → Except String α × CopyingStore}
    (h : ∀ copy, store.copy? = some copy → store.Keeps (act copy).2) :
    store.Keeps (store.withCopy act).2 := by
  rw [withCopy]
  cases hcopy : store.copy? with
  | none => exact .refl store
  | some copy => exact h copy hcopy

theorem keeps_insertAttendance {copy : Tables} (hcopy : store.copy? = some copy)
    (records : List AttendanceRecord) : store.Keeps (store.insertAttendance copy records).2 := by
  by_cases haccepts : store.Accepts copy records
  · rw [insertAttendance_of_accepts haccepts]
    exact ⟨rfl, by rw [hcopy]; rfl⟩
  · obtain ⟨text, htext⟩ := insertAttendance_of_not_accepts haccepts
    rw [htext]
    exact .refl store

theorem keeps_settle {copy : Tables} (hcopy : store.copy? = some copy)
    (changed? : Option Tables) : store.Keeps (store.settle changed?).2 := by
  cases changed? with
  | none => exact .refl store
  | some changed => exact ⟨rfl, by rw [hcopy]; rfl⟩

/-- A call that neither opens nor closes a transaction leaves the tables as they are, and a copy
where there is one. -/
theorem keeps_after {call : StoreCall} (hbegin : call ≠ .ask .begin) (hcommit : call ≠ .ask .commit)
    (hrollback : call ≠ .ask .rollback) (store : CopyingStore) :
    store.Keeps (StoreCall.after serve [call] store) := by
  cases call with
  | ask q =>
    cases q with
    | begin => exact absurd rfl hbegin
    | commit => exact absurd rfl hcommit
    | rollback => exact absurd rfl hrollback
    | insertEvent new =>
      exact keeps_withCopy fun copy hcopy => ⟨rfl, by rw [hcopy]; rfl⟩
    | insertAttendance records =>
      exact keeps_withCopy fun copy hcopy => keeps_insertAttendance hcopy records
    | lockEvent id => exact keeps_withCopy fun copy _ => .refl store
    | updateEvent event => exact keeps_withCopy fun copy hcopy => keeps_settle hcopy _
    | updateStatus eventId userId status now =>
      exact keeps_withCopy fun copy hcopy => keeps_settle hcopy _
    | findEvent id => exact .refl store
    | listTeamEvents teamId => exact .refl store
    | listAttendance id => exact .refl store
    | ping => exact .refl store
  | eventCount => exact .refl store
  | teamEventCount teamId => exact .refl store
  | attendanceCount => exact .refl store
  | batchCount => exact .refl store
  | setFailing failing => exact .refl store

/-- A transaction starts with a copy of the tables. -/
theorem serve_begin_of_none (hcopy : store.copy? = none) :
    serve (.ask .begin) store = some (.ok (), { store with copy? := some store.tables }) := by
  simp only [serve, reply?, hcopy]
  rfl

/-- A second transaction has to wait. -/
theorem serve_begin_of_some {copy : Tables} (hcopy : store.copy? = some copy) :
    serve (.ask .begin) store = none := by
  simp only [serve, reply?, hcopy]
  rfl

/-- There is nothing to commit without a transaction. -/
theorem after_commit_of_none (hcopy : store.copy? = none) :
    StoreCall.after serve [.ask .commit] store = store := by
  rw [StoreCall.after_singleton]
  simp only [serve, reply?, withCopy, hcopy]
  rfl

/-- A commit puts the copy in place of the tables. -/
theorem after_commit {copy : Tables} (hcopy : store.copy? = some copy) :
    StoreCall.after serve [.ask .commit] store = { store with tables := copy, copy? := none } := by
  rw [StoreCall.after_singleton]
  simp only [serve, reply?, withCopy, hcopy]
  rfl

/-- There is a copy after a call exactly if the call leaves a transaction open. -/
theorem isSome_copy?_after (call : StoreCall) (store : CopyingStore) :
    (StoreCall.after serve [call] store).copy?.isSome =
      StoreCall.leavesOpen store.copy?.isSome call := by
  by_cases hbegin : call = .ask .begin
  · subst hbegin
    cases hcopy : store.copy? with
    | none =>
      rw [StoreCall.after_singleton, serve_begin_of_none hcopy]
      rfl
    | some copy =>
      rw [StoreCall.after_singleton, serve_begin_of_some hcopy]
      exact congrArg Option.isSome hcopy
  by_cases hcommit : call = .ask .commit
  · subst hcommit
    cases hcopy : store.copy? with
    | none =>
      rw [after_commit_of_none hcopy]
      exact congrArg Option.isSome hcopy
    | some copy =>
      rw [after_commit hcopy]
      rfl
  by_cases hrollback : call = .ask .rollback
  · subst hrollback
    rfl
  rw [(keeps_after hbegin hcommit hrollback store).2, StoreCall.leavesOpen]
  · exact hbegin
  · exact hcommit
  · exact hrollback

/-- A call other than a commit leaves the tables as they are. -/
theorem tables_after {call : StoreCall} (h : call ≠ .ask .commit) (store : CopyingStore) :
    (StoreCall.after serve [call] store).tables = store.tables := by
  by_cases hbegin : call = .ask .begin
  · subst hbegin
    rw [StoreCall.after_singleton]
    cases hcopy : store.copy? with
    | none =>
      rw [serve_begin_of_none hcopy]
      rfl
    | some copy =>
      rw [serve_begin_of_some hcopy]
      rfl
  by_cases hrollback : call = .ask .rollback
  · subst hrollback
    rfl
  exact (keeps_after hbegin h hrollback store).1

/-- A call that only tells of the tables is answered out of them. -/
theorem answer?_of_isReading {call : StoreCall} (h : call.isReading = true)
    (store : CopyingStore) :
    StoreCall.answer? serve call store =
      StoreCall.answer? serve call { tables := store.tables } := by
  cases call with
  | ask q =>
    cases q with
    | findEvent id => rfl
    | listTeamEvents teamId => rfl
    | listAttendance id => rfl
    | _ => cases h
  | eventCount => rfl
  | teamEventCount teamId => rfl
  | attendanceCount => rfl
  | batchCount => cases h
  | setFailing failing => cases h

/-- Only the opening of a transaction can be refused, and it is while one is open. -/
theorem answer?_eq_none_iff {call : StoreCall} (store : CopyingStore) :
    StoreCall.answer? serve call store = none ↔
      call = .ask .begin ∧ store.copy?.isSome = true := by
  rw [StoreCall.answer?, Option.map_eq_none_iff]
  by_cases hbegin : call = .ask .begin
  · subst hbegin
    cases hcopy : store.copy? with
    | none =>
      rw [serve_begin_of_none hcopy]
      simp
    | some copy =>
      rw [serve_begin_of_some hcopy]
      simp
  · have hanswered : ∃ outcome, serve call store = some outcome := by
      cases call with
      | ask q =>
        cases q with
        | begin => exact absurd rfl hbegin
        | _ => exact ⟨_, rfl⟩
      | _ => exact ⟨_, rfl⟩
    obtain ⟨outcome, houtcome⟩ := hanswered
    rw [houtcome]
    simp [hbegin]

/-- Calls without a commit leave the tables as they are. -/
theorem tables_after_of_not_mem {calls : List StoreCall} (h : .ask .commit ∉ calls)
    (store : CopyingStore) : (StoreCall.after serve calls store).tables = store.tables := by
  induction calls generalizing store with
  | nil => rfl
  | cons call calls ih =>
    rw [List.mem_cons, not_or] at h
    rw [StoreCall.after_cons, ih h.2, tables_after (Ne.symm h.1)]

/-- There is a copy after some calls exactly if they leave a transaction open. -/
theorem isSome_copy?_after_calls (calls : List StoreCall) (store : CopyingStore) :
    (StoreCall.after serve calls store).copy?.isSome =
      calls.foldl StoreCall.leavesOpen store.copy?.isSome := by
  induction calls generalizing store with
  | nil => rfl
  | cons call calls ih =>
    rw [StoreCall.after_cons, ih, isSome_copy?_after, List.foldl_cons]

end CopyingStore

end TeamCalendar
