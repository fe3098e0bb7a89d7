import TeamCalendar.Delivery
import TeamCalendar.Directory.Client
import TeamCalendar.Http.Layers
import TeamCalendar.Sql.Database
import TeamCalendar.Store

/-!
# The service on its own

A running service is put together from its settings.  Its directories are on the web, its storage is
in memory or in a database, it counts for itself, and it delivers changes if the settings say where.
What is left to be asked outside is the web, the database and the time.

* `Standalone.answer` answers the questions of the service.
* `Standalone.handle` answers a request.
-/

namespace TeamCalendar

namespace Outside

/-- A question to what is outside. -/
inductive Question where
  /-- A message to others on the web. -/
  | web (message : Web.Message)
  /-- A step of a dialogue with the database. -/
  | database (q : Sql.Question)
  /-- The time. -/
  | now

/-- The answer to a question; others on the web and the database may take their time. -/
def Answer : Question → Type
  | .web _ => Timed (Except Web.Failure Web.Reply)
  | .database q => Timed (Sql.Answer q)
  | .now => Instant

end Outside

/-- Questions to what is outside. -/
def Outside : Interface where
  Question := Outside.Question
  Answer := Outside.Answer

/-- A running service. -/
structure Standalone where
  /-- The backend. -/
  backend : Backend
  /-- The settings of the service. -/
  runtime : RuntimeSettings
  /-- The settings of the directories. -/
  directories : DirectorySettings
  /-- The settings of deliveries. -/
  delivery : DeliverySettings
  /-- The storage in memory. -/
  store : Store := {}
  /-- The counters. -/
  tally : Tally := {}

namespace Standalone

variable {α : Type}

/-- The service that settings describe. -/
def ofSettings (settings : Settings) : Except SettingsFlaw Standalone := do
  pure
    { backend := ← settings.backend
      runtime := settings.runtime
      directories := settings.directories
      delivery := settings.delivery }

/-- What a running service does; there is no result if it would wait for ever. -/
abbrev Action (α : Type) :=
  StateT Standalone (OptionT (Dialogue Outside)) α

/-- Asks outside. -/
def ask (q : Outside.Question) : Action (Outside.Answer q) :=
  StateT.lift (OptionT.lift (Dialogue.question (I := Outside) q))

/-- Sends a message, and adds up the time that it takes. -/
def send (message : Web.Message) : StateT Nat Action (Except Web.Failure Web.Reply) := do
  let reply : Timed (Except Web.Failure Web.Reply) ← StateT.lift (ask (.web message))
  modify (· + reply.delay)
  pure reply.value

/-- Takes a step of a dialogue with the database, and adds up the time that it takes. -/
def step (q : Sql.Question) : StateT Nat Action (Sql.Answer q) := do
  let answer : Timed (Sql.Answer q) ← StateT.lift (ask (.database q))
  modify (· + answer.delay)
  pure answer.value

/-- The value of an action along with the time that it takes. -/
def timed (action : StateT Nat Action α) : Action (Timed α) := do
  let (value, delay) ← action.run 0
  pure { delay, value }

/-- Where the directory for a question is. -/
def directoryUrl (settings : DirectorySettings) : Directory.Question → String
  | .membership .. | .roster _ => settings.teamServiceUrl
  | .profiles _ => settings.userServiceUrl

/-- Asks a directory. -/
def consult (q : Directory.Question) : Action (Timed (Directory.Answer q)) := do
  let url := directoryUrl (← get).directories q
  timed (Directory.answerOf q <$> (Directory.ask url q).interpret send)

/-- Asks the storage in memory. -/
def remember (q : Storage.Question) : Action (Storage.Answer q) :=
  fun service => OptionT.mk (pure ((Store.answer? q service.store).map fun (answer, store) =>
    (answer, { service with store })))

/-- Asks the storage. -/
def keep (q : Storage.Question) : Action (Timed (Storage.Answer q)) := do
  match (← get).backend with
  | .memory => return { delay := 0, value := ← remember q }
  | .postgres => timed ((Sql.Database.answer q).interpret step)

/-- Delivers a change, if the settings say where. -/
def deliver (change : Change) : Action Unit := do
  let settings := (← get).delivery
  match settings.webhookUrl with
  | none => pure ()
  | some url =>
    let dialogue := Delivery.deliver url settings.topic settings.signingSecret change
    let _ ← (dialogue.interpret send).run 0

/-- Answers a question of the service. -/
def answer : (q : Surroundings.Question) → Action (Surroundings.Answer q)
  | .directory q => consult q
  | .storage q => keep q
  | .now => ask .now
  | .count occurrence => modify fun service => { service with tally := service.tally.add occurrence }
  | .tally => return (← get).tally
  | .publish change => deliver change

/-- Answers a request. -/
def handle (request : Http.Request) : Action Http.LayeredResponse := do
  let settings := (← get).runtime
  (Http.Layers.limit settings request).interpret answer

end Standalone

end TeamCalendar
