import TeamCalendar.Store.Tables

/-!
# Transactions

A transaction stages what it writes apart from the committed tables.  It sees its own rows, and
committed ones where it has none.
-/

namespace TeamCalendar

/-- Why attendance records cannot be written. -/
inductive AttendanceFault where
  /-- All writing of attendance is made to fail. -/
  | injected
  /-- There is no such event. -/
  | unknownEvent (id : EventId)
  /-- There is a record for the event and the user already. -/
  | duplicate (key : AttendanceKey)
  deriving DecidableEq

/-- The explanation of a fault. -/
def AttendanceFault.message : AttendanceFault → String
  | injected => "injected attendance insert failure"
  | unknownEvent id => s!"attendance references unknown event {id}"
  | duplicate key => s!"duplicate attendance for event {key.eventId} user {key.userId}"

/-- An open transaction. -/
structure Transaction where
  /-- The committed tables. -/
  committed : Tables
  /-- The rows written so far. -/
  staged : Tables

namespace Transaction

/-- The event that the transaction sees. -/
def event? (tx : Transaction) (id : EventId) : Option Event :=
  (tx.staged.events[id]?).or tx.committed.events[id]?

/-- The attendance record that the transaction sees. -/
def attendance? (tx : Transaction) (key : AttendanceKey) : Option AttendanceRecord :=
  (tx.staged.attendance[key]?).or tx.committed.attendance[key]?

/-- Writes an event. -/
def putEvent (tx : Transaction) (event : Event) : Transaction :=
  { tx with staged := tx.staged.putEvent event }

/-- Takes a record into a batch, if its event is there and neither the batch nor the transaction has
one with its key. -/
def addToBatch (tx : Transaction) (batch : Table AttendanceKey AttendanceRecord)
    (record : AttendanceRecord) : Except AttendanceFault (Table AttendanceKey AttendanceRecord) :=
  if (tx.event? record.eventId).isNone then
    .error (.unknownEvent record.eventId)
  else if batch.contains record.key || (tx.attendance? record.key).isSome then
    .error (.duplicate record.key)
  else
    .ok (batch.insert record.key record)

/-- The batch of the given records. -/
def batch (tx : Transaction) (records : List AttendanceRecord) :
    Except AttendanceFault (Table AttendanceKey AttendanceRecord) :=
  records.foldlM tx.addToBatch ∅

/-- Writes a batch. -/
def putBatch (tx : Transaction) (batch : Table AttendanceKey AttendanceRecord) : Transaction :=
  { tx with staged := { tx.staged with attendance := tx.staged.attendance ∪ batch } }

/-- Writes an event over one with its identifier and its team, if the transaction sees one. -/
def updateEvent? (tx : Transaction) (event : Event) : Option Transaction :=
  match tx.event? event.id with
  | some current => if current.teamId = event.teamId then some (tx.putEvent event) else none
  | none => none

/-- Sets the status of a user for an event, if the transaction sees a record of it. -/
def updateStatus? (tx : Transaction) (key : AttendanceKey) (status : Status) (now : Instant) :
    Option Transaction :=
  match tx.attendance? key with
  | some record =>
    some { tx with staged :=
      { tx.staged with
        attendance := tx.staged.attendance.insert key { record with status, updatedAt := now } } }
  | none => none

end Transaction

end TeamCalendar
