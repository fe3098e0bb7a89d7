import TeamCalendar.Attendance
import TeamCalendar.Chunks

/-!
# Statements

What is sent to a database: a text with numbered places, and the parameters for them in order.  The
number of parameters of one statement is limited, so a long list of attendance records is sent with
several statements, each of which has as many rows as fit.
-/

namespace TeamCalendar.Sql

/-- A value that is sent along with a statement. -/
inductive Parameter where
  /-- An identifier. -/
  | id (bits : BitVec 128)
  /-- A text. -/
  | text (s : String)
  /-- A time, which is sent as a number of microseconds. -/
  | time (t : Instant)
  deriving DecidableEq

/-- The parameter that is an identifier. -/
def Parameter.ofId {kind : IdKind} (id : Id kind) : Parameter :=
  .id id.bits

/-- A statement. -/
structure Statement where
  /-- The text, with numbered places for the parameters. -/
  text : String
  /-- The parameters. -/
  parameters : List Parameter := []
  deriving DecidableEq

namespace Statement

/-- The columns of an event. -/
def eventColumns : String :=
  "id, team_id, title, event_type, location, start_time, end_time"

/-- The columns of an attendance record. -/
def attendanceColumns : String :=
  "event_id, team_id, user_id, status, updated_at"

/-- Finds an event. -/
def findEvent (id : EventId) : Statement where
  text := s!"SELECT {eventColumns} FROM events WHERE id = $1"
  parameters := [.ofId id]

/-- Finds an event and keeps others from changing it. -/
def lockEvent (id : EventId) : Statement where
  text := s!"SELECT {eventColumns} FROM events WHERE id = $1 FOR UPDATE"
  parameters := [.ofId id]

/-- Lists the events of a team. -/
def listTeamEvents (teamId : TeamId) : Statement where
  text := s!"SELECT {eventColumns} FROM events WHERE team_id = $1 ORDER BY start_time, id"
  parameters := [.ofId teamId]

/-- Lists the attendance records of an event. -/
def listAttendance (id : EventId) : Statement where
  text := s!"SELECT {attendanceColumns} FROM attendance WHERE event_id = $1 ORDER BY user_id"
  parameters := [.ofId id]

/-- Finds out whether the database can be reached. -/
def ping : Statement where
  text := "SELECT 1"

/-- Writes an event, to which the database gives an identifier. -/
def insertEvent (event : NewEvent) : Statement where
  text := "INSERT INTO events (team_id, title, event_type, location, start_time, end_time) " ++
    s!"VALUES ($1, $2, $3, $4, $5, $6) RETURNING {eventColumns}"
  parameters :=
    [.ofId event.teamId, .text event.title, .text event.eventType, .text event.location,
     .time event.startTime, .time event.endTime]

/-- Writes what may be changed of an event. -/
def updateEvent (event : Event) : Statement where
  text := "UPDATE events SET title = $3, location = $4, start_time = $5, end_time = $6 " ++
    "WHERE id = $1 AND team_id = $2"
  parameters :=
    [.ofId event.id, .ofId event.teamId, .text event.title, .text event.location,
     .time event.startTime, .time event.endTime]

/-- Sets the status of a user for an event. -/
def updateStatus (eventId : EventId) (userId : UserId) (status : Status) (now : Instant) :
    Statement where
  text := "UPDATE attendance SET status = $3, updated_at = $4 WHERE event_id = $1 AND user_id = $2"
  parameters := [.ofId eventId, .ofId userId, .text status.name, .time now]

/-- The most parameters that a statement may have. -/
def maxParameters : Nat :=
  65535

/-- The parameters of one attendance record. -/
def attendanceParameters (record : AttendanceRecord) : List Parameter :=
  [.ofId record.eventId, .ofId record.teamId, .ofId record.userId, .text record.status.name,
   .time record.updatedAt]

/-- The number of parameters of one attendance record. -/
def attendanceWidth : Nat :=
  5

@[simp]
theorem length_attendanceParameters (record : AttendanceRecord) :
    (attendanceParameters record).length = attendanceWidth :=
  rfl

/-- The most attendance records that one statement may write. -/
def maxAttendanceRows : Nat :=
  maxParameters / attendanceWidth

/-- The places of `count` parameters, of which the first has the number `first`, in parentheses. -/
def placeGroup (first count : Nat) : String :=
  "(" ++ ", ".intercalate ((List.range' first count).map fun n => s!"${n}") ++ ")"

/-- The places of the parameters of `rows` attendance records. -/
def placeGroups (rows : Nat) : String :=
  ", ".intercalate
    ((List.range rows).map fun row => placeGroup (attendanceWidth * row + 1) attendanceWidth)

/-- Writes attendance records. -/
def insertAttendance (records : List AttendanceRecord) : Statement where
  text := s!"INSERT INTO attendance ({attendanceColumns}) VALUES {placeGroups records.length}"
  parameters := records.flatMap attendanceParameters

/-- Writes attendance records with as many statements as it takes. -/
def insertAllAttendance (records : List AttendanceRecord) : List Statement :=
  (chunks (maxAttendanceRows - 1) records).map insertAttendance

/-- Makes the tables and their indexes if they are not there. -/
def schema : List Statement :=
  [{ text := "CREATE TABLE IF NOT EXISTS events ( id UUID PRIMARY KEY DEFAULT gen_random_uuid(), " ++
      "team_id UUID NOT NULL, title TEXT NOT NULL, event_type TEXT NOT NULL, " ++
      "location TEXT NOT NULL DEFAULT '', start_time TIMESTAMPTZ NOT NULL, " ++
      "end_time TIMESTAMPTZ NOT NULL, CHECK (start_time < end_time) )" },
   { text := "CREATE INDEX IF NOT EXISTS events_team_start_idx ON events (team_id, start_time)" },
   { text := "CREATE TABLE IF NOT EXISTS attendance ( " ++
      "event_id UUID NOT NULL REFERENCES events (id) ON DELETE CASCADE, team_id UUID NOT NULL, " ++
      "user_id UUID NOT NULL, status TEXT NOT NULL DEFAULT 'PENDING' " ++
      "CHECK (status IN ('PENDING', 'ACCEPTED', 'DECLINED', 'TENTATIVE')), " ++
      "updated_at TIMESTAMPTZ NOT NULL, PRIMARY KEY (event_id, user_id) )" },
   { text := "CREATE INDEX IF NOT EXISTS attendance_team_idx ON attendance (team_id)" }]

end Statement

end TeamCalendar.Sql
