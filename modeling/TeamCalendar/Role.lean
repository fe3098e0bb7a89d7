import TeamCalendar.Identifier
import TeamCalendar.Text.Blank
import TeamCalendar.Text.Case

/-!
# Roles

A member of a team has a role in it.  A role is named by a word; every other text, which may come
from elsewhere, stands for an unknown role, and an unknown role permits nothing, whatever is allowed.
-/

namespace TeamCalendar

/-- The role of a member in a team. -/
inductive Role where
  /-- Coaches the team. -/
  | coach
  /-- Manages the team. -/
  | manager
  /-- Plays in the team. -/
  | player
  /-- Has some other part in the team. -/
  | unknown
  deriving DecidableEq

namespace Role

/-- The word for a role. -/
def name : Role → String
  | coach => "coach"
  | manager => "manager"
  | player => "player"
  | unknown => "unknown"

instance : ToString Role where
  toString := name

/-- The role that a text stands for, blanks around it and case aside. -/
def ofText (s : String) : Role :=
  match Text.lower (Text.trim s) with
  | "coach" => coach
  | "manager" => manager
  | "player" => player
  | _ => unknown

/-- The roles that may create and change events unless configured otherwise. -/
def writers : List Role :=
  [coach, manager]

/-- The roles that may see events and respond to them. -/
def readers : List Role :=
  [coach, manager, player]

/-- Whether the role is known and among those that are allowed. -/
def isAnyOf (role : Role) (allowed : List Role) : Bool :=
  role ≠ unknown ∧ role ∈ allowed

@[simp]
theorem isAnyOf_unknown (allowed : List Role) : unknown.isAnyOf allowed = false := by
  simp [isAnyOf]

end Role

/-- A member of a team. -/
structure Member where
  /-- The user. -/
  userId : UserId
  /-- The user's role in the team. -/
  role : Role
  deriving DecidableEq

/-- What is shown of a user. -/
structure Profile where
  /-- The first name. -/
  firstName : String
  /-- The last name. -/
  lastName : String
  /-- The address for mail. -/
  email : String
  deriving DecidableEq

end TeamCalendar
