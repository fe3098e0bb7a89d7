import TeamCalendar.Service.Authorization

/-!
# Queries

Reading one event with its attendees, and listing the events of a team.
-/

namespace TeamCalendar

/-- Whether one user comes before another, or is the same. -/
def UserId.precedes (a b : UserId) : Bool :=
  (compare a b).isLE

namespace AttendanceRecord

/-- Records by user; records of the same user stay in their order. -/
def sorted (records : List AttendanceRecord) : List AttendanceRecord :=
  records.mergeSort fun a b => UserId.precedes a.userId b.userId

/-- The users of records, each once. -/
def userIds (records : List AttendanceRecord) : List UserId :=
  (records.map (·.userId)).eraseDups

/-- The attendee of a record, if the user's profile is known. -/
def attendee? (profiles : Profiles) (record : AttendanceRecord) : Option Attendee :=
  profiles[record.userId]?.map fun profile =>
    { userId := record.userId, profile, status := record.status }

end AttendanceRecord

namespace Service

/-- Puts records together with the profiles of their users.  Records of users whose profile is not
known are left out, and their number is counted. -/
def join (records : List AttendanceRecord) (profiles : Profiles) : Service (List Attendee) := do
  let attendance := records.filterMap (·.attendee? profiles)
  let misses := records.length - attendance.length
  if 0 < misses then
    count (.profileMisses misses)
  pure attendance

/-- Reads an event with its attendees, for a requester who may read in its team.  All profiles are
asked for at once. -/
def eventDetails (settings : RuntimeSettings) (requester : UserId) (id : EventId) :
    Service EventDetails := do
  let event ← findEvent id
  let _ ← authorizeRead settings requester event.teamId
  let records := AttendanceRecord.sorted (← stored (← ask (.storage (.listAttendance id))))
  let userIds := AttendanceRecord.userIds records
  let profiles ← if userIds.isEmpty then pure ∅ else profiles settings userIds
  let attendance ← join records profiles
  pure { event, attendance }

/-- Lists the events of a team in which the requester may read, by their starts. -/
def teamEvents (settings : RuntimeSettings) (requester : UserId) (teamId : TeamId) :
    Service (List Event) := do
  let _ ← authorizeRead settings requester teamId
  Event.sorted <$> (do stored (← ask (.storage (.listTeamEvents teamId))))

end Service

end TeamCalendar
