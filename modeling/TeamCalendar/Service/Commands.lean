import TeamCalendar.Service.Authorization

/-!
# Commands

Creating an event, changing it, and responding to it.  Each command writes within one transaction,
and makes its change known only after the transaction has been committed.
-/

namespace TeamCalendar

/-- An event that has been created. -/
structure CreatedEvent where
  /-- The event. -/
  event : Event
  /-- The number of attendance records made for it. -/
  attendanceRows : Nat
  deriving DecidableEq

namespace Service

/-- Writes attendance records and makes sure that all have been written. -/
def insertAttendance (records : List AttendanceRecord) : Service Nat := do
  let written ← stored (← ask (.storage (.insertAttendance records)))
  if written = records.length then
    pure written
  else
    storageFailure s!"attendance insert wrote {written} of {records.length} rows"

/-- Writes an event with a pending attendance record for each member of its team.  The members are
asked for before the transaction begins. -/
def storeEvent (settings : RuntimeSettings) (new : NewEvent) : Service CreatedEvent := do
  let new := new.normalized
  ofFlaw new.validate
  let roster ← roster settings new.teamId
  inTransaction do
    let event ← stored (← ask (.storage (.insertEvent new)))
    let records := AttendanceRecord.cohort event roster (← now)
    let attendanceRows ← if records.isEmpty then pure 0 else insertAttendance records
    pure { event, attendanceRows }

/-- Creates an event for a team in which the requester may write. -/
def createEvent (settings : RuntimeSettings) (requester : UserId) (new : NewEvent) :
    Service CreatedEvent := do
  ofFlaw new.normalized.validate
  let _ ← authorizeWrite settings requester new.teamId
  let created ← storeEvent settings new
  count (.eventCreated created.attendanceRows)
  publish .eventCreated created.event requester none
  pure created

/-- Writes the change of an event.  An event of another team counts as missing. -/
def storePatch (teamId : TeamId) (id : EventId) (patch : Patch) : Service Event := do
  if patch.isEmpty then
    throw (.ofFlaw .emptyPatch)
  inTransaction do
    match ← stored (← ask (.storage (.lockEvent id))) with
    | none => throw (.notFound s!"event {id}")
    | some current =>
      if current.teamId = teamId then
        let changed ← ofFlaw (patch.apply current)
        if ← stored (← ask (.storage (.updateEvent changed))) then
          pure changed
        else
          throw (.notFound s!"event {id}")
      else
        throw (.notFound s!"event {id}")

/-- Changes an event of a team in which the requester may write. -/
def updateEvent (settings : RuntimeSettings) (requester : UserId) (teamId : TeamId) (id : EventId)
    (patch : Patch) : Service Event := do
  let _ ← authorizeWrite settings requester teamId
  let changed ← storePatch teamId id patch
  count .eventUpdated
  publish .eventUpdated changed requester none
  pure changed

/-- Writes the status of a user for an event. -/
def storeStatus (id : EventId) (userId : UserId) (status : Status) : Service Unit :=
  inTransaction do
    let time ← now
    if ← stored (← ask (.storage (.updateStatus id userId status time))) then
      pure ()
    else
      throw (.notFound s!"attendance of user {userId} for event {id}")

/-- Records the requester's own response to an event, and returns the event. -/
def respond (settings : RuntimeSettings) (requester : UserId) (id : EventId) (status : Status) :
    Service Event := do
  let event ← findEvent id
  let _ ← authorizeRead settings requester event.teamId
  storeStatus id requester status
  count .attendanceResponse
  publish .attendanceUpdated event requester (some status)
  pure event

end Service

end TeamCalendar
