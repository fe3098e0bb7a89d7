import TeamCalendar.Event
import TeamCalendar.Role

/-!
# Attendance

For each user who was in a team when an event was made, a record says whether the user attends it.
The answer is pending until the user responds.
-/

namespace TeamCalendar

/-- Whether a user attends an event. -/
inductive Status where
  /-- The user has not responded. -/
  | pending
  /-- The user attends. -/
  | accepted
  /-- The user does not attend. -/
  | declined
  /-- The user may attend. -/
  | tentative
  deriving DecidableEq

namespace Status

instance : Inhabited Status :=
  ⟨pending⟩

/-- The word for a status. -/
def name : Status → String
  | pending => "PENDING"
  | accepted => "ACCEPTED"
  | declined => "DECLINED"
  | tentative => "TENTATIVE"

instance : ToString Status where
  toString := name

/-- The status that a text stands for, blanks around it and case aside. -/
def parse? (s : String) : Option Status :=
  match Text.upper (Text.trim s) with
  | "PENDING" => some pending
  | "ACCEPTED" => some accepted
  | "DECLINED" => some declined
  | "TENTATIVE" => some tentative
  | _ => none

/-- The explanation for a text that stands for no status. -/
def unknownMessage (s : String) : String :=
  s!"unknown attendance status '{s}'"

end Status

/-- Whether a user attends an event, and since when that is known. -/
structure AttendanceRecord where
  /-- The event. -/
  eventId : EventId
  /-- The team of the event. -/
  teamId : TeamId
  /-- The user. -/
  userId : UserId
  /-- Whether the user attends. -/
  status : Status
  /-- When the status was set. -/
  updatedAt : Instant
  deriving DecidableEq

namespace AttendanceRecord

/-- The record of a user who has not responded. -/
def pending (event : Event) (userId : UserId) (now : Instant) : AttendanceRecord where
  eventId := event.id
  teamId := event.teamId
  userId := userId
  status := .pending
  updatedAt := now

/-- One pending record for each user of a roster, in the order of the roster; a user who is listed
again counts where listed first. -/
def cohort (event : Event) (roster : List Member) (now : Instant) : List AttendanceRecord :=
  (roster.map (·.userId)).eraseDups.map (pending event · now)

end AttendanceRecord

/-- A user with the user's response to an event. -/
structure Attendee where
  /-- The user. -/
  userId : UserId
  /-- What is shown of the user. -/
  profile : Profile
  /-- Whether the user attends. -/
  status : Status
  deriving DecidableEq

/-- An event with its attendees. -/
structure EventDetails where
  /-- The event. -/
  event : Event
  /-- The attendees. -/
  attendance : List Attendee
  deriving DecidableEq

end TeamCalendar
