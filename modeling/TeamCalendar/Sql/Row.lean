import TeamCalendar.Attendance
import TeamCalendar.Instant.Micros

/-!
# Rows

What a database answers with: rows of cells, each with the name of its column.  A row is read as an
event or as an attendance record.  The status of a record is kept as a text, which is looked at only
once all rows have been read.
-/

namespace TeamCalendar.Sql

/-- A cell of a row. -/
inductive Cell where
  /-- There is no value. -/
  | null
  /-- An identifier. -/
  | id (bits : BitVec 128)
  /-- A text. -/
  | text (s : String)
  /-- A time, as a number of microseconds. -/
  | time (micros : Int)
  deriving DecidableEq

/-- Cells with the names of their columns. -/
abbrev Row :=
  List (String × Cell)

namespace Row

/-- The identifier in a column. -/
def id? {kind : IdKind} (row : Row) (column : String) : Option (Id kind) :=
  match row.lookup column with
  | some (.id bits) => some ⟨bits⟩
  | _ => none

/-- The text in a column. -/
def text? (row : Row) (column : String) : Option String :=
  match row.lookup column with
  | some (.text s) => some s
  | _ => none

/-- The time in a column. -/
def time? (row : Row) (column : String) : Option Instant :=
  match row.lookup column with
  | some (.time micros) => Instant.ofMicros? micros
  | _ => none

/-- Reads a row as an event. -/
def event? (row : Row) : Option Event := do
  pure
    { id := ← row.id? "id"
      teamId := ← row.id? "team_id"
      title := ← row.text? "title"
      eventType := ← row.text? "event_type"
      location := ← row.text? "location"
      startTime := ← row.time? "start_time"
      endTime := ← row.time? "end_time" }

end Row

/-- An attendance record as a row has it. -/
structure AttendanceRow where
  /-- The event. -/
  eventId : EventId
  /-- The team of the event. -/
  teamId : TeamId
  /-- The user. -/
  userId : UserId
  /-- The text of the status. -/
  status : String
  /-- When the status was set. -/
  updatedAt : Instant
  deriving DecidableEq

namespace AttendanceRow

/-- Reads a row as an attendance record. -/
def ofRow? (row : Row) : Option AttendanceRow := do
  pure
    { eventId := ← row.id? "event_id"
      teamId := ← row.id? "team_id"
      userId := ← row.id? "user_id"
      status := ← row.text? "status"
      updatedAt := ← row.time? "updated_at" }

/-- The record, if the text of its status stands for a status. -/
def record (row : AttendanceRow) : Except String AttendanceRecord :=
  match Status.parse? row.status with
  | some status =>
    .ok
      { eventId := row.eventId
        teamId := row.teamId
        userId := row.userId
        status
        updatedAt := row.updatedAt }
  | none => .error (Status.unknownMessage row.status)

end AttendanceRow

end TeamCalendar.Sql
