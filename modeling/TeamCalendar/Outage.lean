import TeamCalendar.Sql.Database
import TeamCalendar.Web

/-!
# Outages

During an outage nothing that the service sends gets anywhere, so it can neither ask a directory nor
keep an event in a database.
-/

namespace TeamCalendar.Outage

variable {α : Type}

/-- The answer to a message when nobody can be reached. -/
def webAnswer (message : Web.Message) : Except Web.Failure Web.Reply :=
  .error (if message.isSendable then .unreachable else .unsendable)

/-- Carries out a dialogue with others on the web when nobody can be reached. -/
def web (dialogue : Dialogue Web α) : α :=
  Id.run (dialogue.interpret fun message => pure (webAnswer message))

/-- The answer of a database that cannot be reached. -/
def databaseAnswer : (q : Sql.Question) → Sql.Answer q
  | .begin | .commit | .run _ => .error .client
  | .rollback => ()

/-- Carries out a dialogue with a database that cannot be reached. -/
def database (dialogue : Dialogue Sql α) : α :=
  Id.run (dialogue.interpret fun q => pure (databaseAnswer q))

end TeamCalendar.Outage
