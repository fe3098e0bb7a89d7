import TeamCalendar.Refusal
import TeamCalendar.Settings
import TeamCalendar.Surroundings

/-!
# The service

A request is a dialogue with the surroundings that ends in a result or in a refusal.

* `Service.consult` asks a directory and does not wait longer than the settings allow.
* `Service.store` asks the storage.
* `Service.inTransaction` commits what its body wrote if the body succeeds, and rolls it back if the
  body or the commit fails.
-/

namespace TeamCalendar

/-- A dialogue with the surroundings that may end in a refusal. -/
abbrev Service (α : Type) :=
  ExceptT Refusal (Dialogue Surroundings) α

namespace Service

variable {α : Type}

/-- Asks a question. -/
def ask (q : Surroundings.Question) : Service (Surroundings.Answer q) :=
  ExceptT.lift (Dialogue.question (I := Surroundings) q)

/-- Counts an occurrence. -/
def count (occurrence : Occurrence) : Service Unit :=
  ask (.count occurrence)

/-- The time. -/
def now : Service Instant :=
  ask .now

/-- Judges the answer of a directory: a failure or an answer after the deadline is counted and
refused. -/
def settle (deadline : Nat) (name : String) (answer : Timed (Except String α)) : Service α := do
  if deadline < answer.delay then
    count .callFailure
    throw (.unavailable s!"{name} timed out after {deadline}ms")
  else
    match answer.value with
    | .ok value => pure value
    | .error cause =>
      count .callFailure
      throw (.unavailable cause)

/-- The roles of users in a team. -/
def membership (settings : RuntimeSettings) (teamId : TeamId) (userIds : List UserId) :
    Service Membership := do
  let q := Directory.Question.membership teamId userIds
  settle settings.deadline q.name (← ask (.directory q))

/-- All members of a team. -/
def roster (settings : RuntimeSettings) (teamId : TeamId) : Service (List Member) := do
  let q := Directory.Question.roster teamId
  settle settings.deadline q.name (← ask (.directory q))

/-- What is shown of users. -/
def profiles (settings : RuntimeSettings) (userIds : List UserId) : Service Profiles := do
  let q := Directory.Question.profiles userIds
  settle settings.deadline q.name (← ask (.directory q))

/-- Refuses a request for a failure of the storage, which is counted. -/
def storageFailure (cause : String) : Service α := do
  count .storageError
  throw (.storage cause)

/-- Judges an answer of the storage. -/
def stored (answer : Timed (Except String α)) : Service α :=
  match answer.value with
  | .ok value => pure value
  | .error cause => storageFailure cause

/-- Finds a committed event. -/
def findEvent (id : EventId) : Service Event := do
  match ← stored (← ask (.storage (.findEvent id))) with
  | some event => pure event
  | none => throw (.notFound s!"event {id}")

/-- Carries out a body within a transaction. -/
def inTransaction (body : Service α) : Service α := do
  stored (← ask (.storage .begin))
  tryCatch
    (do
      let value ← body
      stored (← ask (.storage .commit))
      pure value)
    (fun refusal => do
      let _ ← ask (.storage .rollback)
      throw refusal)

/-- Makes a change known. -/
def publish (kind : ChangeKind) (event : Event) (actorId : UserId)
    (attendanceStatus : Option Status) : Service Unit := do
  let occurredAt ← now
  ask (.publish { kind, event, actorId, attendanceStatus, occurredAt })

/-- The result of something in which only a flaw can go wrong. -/
def ofFlaw : Except EventFlaw α → Service α
  | .ok value => pure value
  | .error flaw => throw (.ofFlaw flaw)

end Service

end TeamCalendar
