import TeamCalendar.Service.Basic

/-!
# Authorization

What a requester may do in a team depends on the requester's role in it, which the team directory is
asked for each time.  A directory that fails is not taken for a denial.
-/

namespace TeamCalendar.Service

/-- The role of a requester, if it is known and among those required. -/
def decide? (requester : UserId) (membership : Membership) (required : List Role) : Option Role :=
  membership[requester]?.filter (·.isAnyOf required)

/-- Finds out whether a requester has one of the required roles in a team, and which. -/
def authorize (settings : RuntimeSettings) (requester : UserId) (teamId : TeamId)
    (required : List Role) : Service Role := do
  let membership ← membership settings teamId [requester]
  match decide? requester membership required with
  | some role => pure role
  | none => throw .forbidden

/-- Finds out whether a requester may create and change events of a team. -/
def authorizeWrite (settings : RuntimeSettings) (requester : UserId) (teamId : TeamId) :
    Service Role :=
  authorize settings requester teamId settings.eventWriteRoles

/-- Finds out whether a requester may see events of a team and respond to them. -/
def authorizeRead (settings : RuntimeSettings) (requester : UserId) (teamId : TeamId) :
    Service Role :=
  authorize settings requester teamId Role.readers

end TeamCalendar.Service
