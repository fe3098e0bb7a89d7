import TeamCalendar.Storage
import TeamCalendar.Store.Transaction

/-!
# A store in memory

The store keeps committed tables and at most one open transaction.  Reading sees the committed tables
only.  While a transaction is open, another one has to wait until it is committed or rolled back.

* `Store.answer?` answers the questions to a storage; it has no answer yet for one that has to wait.
-/

namespace TeamCalendar

/-- A store. -/
structure Store where
  /-- The committed tables. -/
  committed : Tables := {}
  /-- The rows staged by the open transaction, if there is one. -/
  staged : Option Tables := none
  /-- Whether the writing of attendance is made to fail. -/
  failing : Bool := false
  /-- How often attendance was to be written. -/
  batches : Nat := 0
  /-- Where new identifiers come from. -/
  ids : IdSource := {}

namespace Store

/-- The open transaction. -/
def transaction? (store : Store) : Option Transaction :=
  store.staged.map fun staged => { committed := store.committed, staged }

/-- Keeps what the open transaction has staged. -/
def stage (store : Store) (tx : Transaction) : Store :=
  { store with staged := some tx.staged }

/-- Opens a transaction, unless one is open. -/
def begin? (store : Store) : Option Store :=
  match store.staged with
  | none => some { store with staged := some {} }
  | some _ => none

/-- Closes the open transaction and puts its rows over the committed ones. -/
def commit (store : Store) : Store :=
  { store with
    committed := store.committed.overlay (store.staged.getD {})
    staged := none }

/-- Closes the open transaction and forgets its rows. -/
def rollback (store : Store) : Store :=
  { store with staged := none }

/-- Gives an event the next identifier and writes it. -/
def insertEvent (store : Store) (tx : Transaction) (event : NewEvent) : Event × Store :=
  let (id, ids) := store.ids.draw
  let event : Event := { event with id }
  (event, { store with ids }.stage (tx.putEvent event))

/-- Writes attendance records, all or none, and tells their number. -/
def insertAttendance (store : Store) (tx : Transaction) (records : List AttendanceRecord) :
    Except AttendanceFault Nat × Store :=
  let store := { store with batches := store.batches + 1 }
  if store.failing then
    (.error .injected, store)
  else
    match tx.batch records with
    | .error fault => (.error fault, store)
    | .ok batch => (.ok batch.size, store.stage (tx.putBatch batch))

/-- Makes the writing of attendance fail from now on, or no longer. -/
def setFailing (store : Store) (failing : Bool) : Store :=
  { store with failing }

/-- The number of committed events of a team. -/
def teamEventCount (store : Store) (teamId : TeamId) : Nat :=
  (store.committed.events.values.filter (·.teamId = teamId)).length

/-- What is said of a question that needs a transaction when none is open. -/
def noTransaction : String :=
  "no transaction is open"

/-- Answers a question within the open transaction. -/
def within {α : Type} (store : Store) (act : Transaction → Except String α × Store) :
    Except String α × Store :=
  match store.transaction? with
  | some tx => act tx
  | none => (.error noTransaction, store)

/-- Answers a question; none if it has to wait for the open transaction to be closed. -/
def answer? (q : Storage.Question) : StateT Store Option (Storage.Answer q) :=
  fun store =>
    match q with
    | .begin => store.begin?.map fun store => (.ok (), store)
    | .findEvent id => some (.ok store.committed.events[id]?, store)
    | .listTeamEvents teamId => some (.ok (store.committed.teamEvents teamId), store)
    | .listAttendance id => some (.ok (store.committed.eventAttendance id), store)
    | .ping => some (.ok (), store)
    | .insertEvent event =>
      some <| store.within fun tx =>
        let (event, store) := store.insertEvent tx event
        (.ok event, store)
    | .insertAttendance records =>
      some <| store.within fun tx =>
        let (result, store) := store.insertAttendance tx records
        (result.mapError AttendanceFault.message, store)
    | .lockEvent id => some <| store.within fun tx => (.ok (tx.event? id), store)
    | .updateEvent event =>
      some <| store.within fun tx =>
        match tx.updateEvent? event with
        | some tx => (.ok true, store.stage tx)
        | none => (.ok false, store)
    | .updateStatus eventId userId status now =>
      some <| store.within fun tx =>
        match tx.updateStatus? ⟨eventId, userId⟩ status now with
        | some tx => (.ok true, store.stage tx)
        | none => (.ok false, store)
    | .commit => some <| store.within fun _ => (.ok (), store.commit)
    | .rollback => some ((), store.rollback)

end Store

end TeamCalendar
