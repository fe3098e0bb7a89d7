import TeamCalendar.Attendance
import TeamCalendar.Dialogue

/-!
# Storage

What a storage of events and attendance is asked for.  Events and attendance are read as they were
last committed.  They are written within a transaction, of which nothing is seen outside before it is
committed, and nothing ever if it is rolled back.
-/

namespace TeamCalendar

namespace Storage

/-- A question to a storage. -/
inductive Question where
  /-- Opens a transaction. -/
  | begin
  /-- Finds a committed event. -/
  | findEvent (id : EventId)
  /-- Lists the committed events of a team. -/
  | listTeamEvents (teamId : TeamId)
  /-- Lists the committed attendance records of an event. -/
  | listAttendance (id : EventId)
  /-- Finds out whether the storage can be reached. -/
  | ping
  /-- Gives an event an identifier and writes it. -/
  | insertEvent (event : NewEvent)
  /-- Writes attendance records, all or none. -/
  | insertAttendance (records : List AttendanceRecord)
  /-- Finds an event as the transaction sees it and keeps others from changing it. -/
  | lockEvent (id : EventId)
  /-- Writes what may be changed of an event. -/
  | updateEvent (event : Event)
  /-- Sets the status of a user for an event. -/
  | updateStatus (eventId : EventId) (userId : UserId) (status : Status) (now : Instant)
  /-- Closes the transaction and makes what it wrote visible. -/
  | commit
  /-- Closes the transaction and forgets what it wrote. -/
  | rollback

/-- Whether a question closes a transaction. -/
def Question.closes : Question → Bool
  | commit | rollback => true
  | _ => false

/-- The answer to a question; a storage that fails says why. -/
def Answer : Question → Type
  | .begin | .ping | .commit => Except String Unit
  | .findEvent _ | .lockEvent _ => Except String (Option Event)
  | .listTeamEvents _ => Except String (List Event)
  | .listAttendance _ => Except String (List AttendanceRecord)
  | .insertEvent _ => Except String Event
  | .insertAttendance _ => Except String Nat
  | .updateEvent _ | .updateStatus .. => Except String Bool
  | .rollback => Unit

end Storage

/-- Questions to a storage. -/
def Storage : Interface where
  Question := Storage.Question
  Answer := Storage.Answer

end TeamCalendar
