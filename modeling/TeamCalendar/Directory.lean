import TeamCalendar.Role
import TeamCalendar.Dialogue
import TeamCalendar.Store.Tables

/-!
# Directories

Teams and users are kept by other services.  The team directory knows who is in a team and in which
role, the user directory what is shown of a user.
-/

namespace TeamCalendar

/-- The roles of some users in a team; a user without a role is not in the team. -/
abbrev Membership :=
  Table UserId Role

/-- What is shown of some users; a user without an entry is not known. -/
abbrev Profiles :=
  Table UserId Profile

namespace Directory

/-- A question to a directory. -/
inductive Question where
  /-- The roles of the given users in a team. -/
  | membership (teamId : TeamId) (userIds : List UserId)
  /-- All members of a team. -/
  | roster (teamId : TeamId)
  /-- What is shown of the given users. -/
  | profiles (userIds : List UserId)

/-- The answer to a question; a directory that fails says why. -/
def Answer : Question → Type
  | .membership .. => Except String Membership
  | .roster _ => Except String (List Member)
  | .profiles _ => Except String Profiles

/-- The name of a question. -/
def Question.name : Question → String
  | membership .. => "check_membership"
  | roster _ => "team_summary"
  | profiles _ => "get_profiles"

end Directory

/-- Questions to the directories. -/
def Directory : Interface where
  Question := Directory.Question
  Answer := Directory.Answer

end TeamCalendar
