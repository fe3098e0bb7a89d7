import TeamCalendar.Attendance

/-!
# Changes

Each change that has taken effect is made known to others by a record of what was changed, by whom
and when.
-/

namespace TeamCalendar

/-- What was changed. -/
inductive ChangeKind where
  /-- An event was created. -/
  | eventCreated
  /-- An event was changed. -/
  | eventUpdated
  /-- A user responded to an event. -/
  | attendanceUpdated
  deriving DecidableEq

/-- The word for a kind of change. -/
def ChangeKind.name : ChangeKind → String
  | eventCreated => "event_created"
  | eventUpdated => "event_updated"
  | attendanceUpdated => "attendance_updated"

/-- A change that has taken effect. -/
structure Change where
  /-- What was changed. -/
  kind : ChangeKind
  /-- The event. -/
  event : Event
  /-- Who changed it. -/
  actorId : UserId
  /-- The response, if there was one. -/
  attendanceStatus : Option Status := none
  /-- When the change was made known. -/
  occurredAt : Instant
  deriving DecidableEq

end TeamCalendar
