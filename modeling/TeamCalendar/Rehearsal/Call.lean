import TeamCalendar.Surroundings

/-!
# Calls

A call is what is noted of a question to a directory or to the storage: its name and the texts of
those arguments that matter to an observer.
-/

namespace TeamCalendar

/-- What is noted of a question. -/
structure Call where
  /-- The name of the question. -/
  name : String
  /-- Its arguments. -/
  arguments : List String := []
  deriving DecidableEq

/-- What is noted of a question to a directory. -/
def Directory.Question.toCall (q : Directory.Question) : Call :=
  { name := q.name
    arguments :=
      match q with
      | membership teamId userIds => teamId.text :: userIds.map Id.text
      | roster teamId => [teamId.text]
      | profiles userIds => userIds.map Id.text }

/-- What is noted of a question to the storage. -/
def Storage.Question.toCall : Storage.Question → Call
  | begin => { name := "begin" }
  | findEvent id => { name := "find_event", arguments := [id.text] }
  | listTeamEvents teamId => { name := "list_team_events", arguments := [teamId.text] }
  | listAttendance id => { name := "list_attendance", arguments := [id.text] }
  | ping => { name := "ping" }
  | insertEvent event => { name := "insert_event", arguments := [event.teamId.text] }
  | insertAttendance records =>
    { name := "insert_attendance", arguments := records.map (·.userId.text) }
  | lockEvent id => { name := "lock_event", arguments := [id.text] }
  | updateEvent event => { name := "update_event", arguments := [event.id.text] }
  | updateStatus eventId userId status _ =>
    { name := "update_attendance_status", arguments := [eventId.text, userId.text, status.name] }
  | commit => { name := "commit" }
  | rollback => { name := "rollback" }

end TeamCalendar
