import TeamCalendar.Sql.Row
import TeamCalendar.Sql.Statement
import TeamCalendar.Storage

/-!
# Storage in a database

Each question to the storage becomes a dialogue with a database.  The beginning and the end of a
transaction are steps of their own; one that fails is followed by a rollback.

* `Database.answer` answers a question to the storage.
* `Database.applySchema` makes the tables.
-/

namespace TeamCalendar

namespace Sql

/-- Why a database gives no answer. -/
inductive Failure where
  /-- The database refuses, with an explanation. -/
  | refused (message : String)
  /-- The database cannot be reached, or the answer makes no sense. -/
  | client
  deriving DecidableEq

/-- The explanation of a failure. -/
def Failure.message : Failure → String
  | refused message => s!"error returned from database: {message}"
  | client => "client error"

/-- The answer to a statement. -/
structure Reply where
  /-- The rows that were asked for. -/
  rows : List Row := []
  /-- How many rows were written, a number of 64 bits. -/
  affected : UInt64 := 0

/-- A step of a dialogue with a database. -/
inductive Question where
  /-- Opens a transaction. -/
  | begin
  /-- Closes the transaction and makes what it wrote visible. -/
  | commit
  /-- Closes the transaction, if one is open, and forgets what it wrote. -/
  | rollback
  /-- Carries out a statement. -/
  | run (statement : Statement)

/-- The answer to a step. -/
def Answer : Question → Type
  | .begin | .commit => Except Failure Unit
  | .rollback => Unit
  | .run _ => Except Failure Reply

end Sql

/-- Dialogues with a database. -/
def Sql : Interface where
  Question := Sql.Question
  Answer := Sql.Answer

namespace Sql.Database

/-- A dialogue with a database that may fail with an explanation. -/
abbrev Query (α : Type) :=
  ExceptT String (Dialogue Sql) α

variable {α : Type}

/-- Takes a step that may fail. -/
def step (result : Dialogue Sql (Except Failure α)) : Query α :=
  ExceptT.mk ((Except.mapError Failure.message) <$> result)

/-- Carries out a statement. -/
def run (statement : Statement) : Query Reply :=
  step (Dialogue.question (I := Sql) (.run statement))

/-- Reads a value that has to make sense. -/
def sensible : Option α → Query α
  | some value => pure value
  | none => throw Failure.client.message

/-- Takes a step and rolls back if it fails. -/
def orRollback (result : Dialogue Sql (Except Failure Unit)) : Query Unit :=
  tryCatch (step result) fun message => do
    ExceptT.lift (Dialogue.question (I := Sql) .rollback)
    throw message

/-- The first event that a statement finds. -/
def firstEvent (statement : Statement) : Query (Option Event) := do
  match (← run statement).rows with
  | [] => pure none
  | row :: _ => some <$> sensible row.event?

/-- The attendance records of an event. -/
def attendance (id : EventId) : Query (List AttendanceRecord) := do
  let rows ← sensible ((← run (.listAttendance id)).rows.mapM AttendanceRow.ofRow?)
  ExceptT.mk (pure (rows.mapM AttendanceRow.record))

/-- The explanation when an event that was written does not come back. -/
def noRowMessage : String :=
  "no rows returned by a query that expected to return at least one row"

/-- Writes an event. -/
def insertEvent (event : NewEvent) : Query Event := do
  match ← firstEvent (.insertEvent event) with
  | some event => pure event
  | none => throw noRowMessage

/-- Carries out statements one after another and counts the rows that they write, in 64 bits. -/
def runAll (statements : List Statement) : Query UInt64 :=
  statements.foldlM (fun written statement => do
    pure (written + (← run statement).affected)) 0

/-- Answers a question to the storage. -/
def answer : (q : Storage.Question) → Dialogue Sql (Storage.Answer q)
  | .begin => (orRollback (Dialogue.question (I := Sql) .begin)).run
  | .commit => (orRollback (Dialogue.question (I := Sql) .commit)).run
  | .rollback => Dialogue.question (I := Sql) .rollback
  | .ping =>
    ExceptT.run do
      let _ ← run .ping
      pure ()
  | .findEvent id => (firstEvent (.findEvent id)).run
  | .lockEvent id => (firstEvent (.lockEvent id)).run
  | .listTeamEvents teamId =>
    ExceptT.run do
      sensible ((← run (.listTeamEvents teamId)).rows.mapM Row.event?)
  | .listAttendance id => (attendance id).run
  | .insertEvent event => (insertEvent event).run
  | .insertAttendance records =>
    ExceptT.run (UInt64.toNat <$> runAll (Statement.insertAllAttendance records))
  | .updateEvent event =>
    ExceptT.run do
      pure (0 < (← run (.updateEvent event)).affected)
  | .updateStatus eventId userId status now =>
    ExceptT.run do
      pure (0 < (← run (.updateStatus eventId userId status now)).affected)

/-- The explanation when the tables cannot be made. -/
def schemaMessage : String :=
  "failed to apply schema"

/-- Makes the tables. -/
def applySchema : Dialogue Sql (Except String Unit) :=
  ExceptT.run do
    let _ ← ExceptT.adapt (fun _ => schemaMessage) (runAll Statement.schema)
    pure ()

end Sql.Database

end TeamCalendar
