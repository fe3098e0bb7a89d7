import TeamCalendar.Service.Commands
import TeamCalendar.Service.Queries
import TeamCalendar.Store

/-!
# Scenes

A scene is what a service with a store in memory has around it: the store, the counters, the changes
made known, and all that has been asked so far.  The collaborators are the directories and the
clock; nothing is assumed of how they behave.

* `Scene.run` carries out a request among given collaborators.
* The lemmas say what each building block of the service does to a scene.
-/

namespace TeamCalendar

/-- How the directories and the clock behave during a request.  The time may depend on all that was
asked before. -/
structure Collaborators where
  /-- The answers of the directories. -/
  directory : (q : Directory.Question) → Timed (Directory.Answer q)
  /-- The time after some questions, the latest one first. -/
  clock : List Surroundings.Question → Instant

namespace Collaborators

/-- The answer to the question which roles users have in a team. -/
def membership (c : Collaborators) (teamId : TeamId) (userIds : List UserId) :
    Timed (Except String Membership) :=
  c.directory (.membership teamId userIds)

/-- The answer to the question who is in a team. -/
def roster (c : Collaborators) (teamId : TeamId) : Timed (Except String (List Member)) :=
  c.directory (.roster teamId)

/-- The answer to the question what is shown of users. -/
def profiles (c : Collaborators) (userIds : List UserId) : Timed (Except String Profiles) :=
  c.directory (.profiles userIds)

end Collaborators

/-- Whether a question goes to a directory or to the storage. -/
def Surroundings.Question.isCall : Surroundings.Question → Bool
  | directory _ | storage _ => true
  | now | count _ | tally | publish _ => false

/-- What is around a service with a store in memory. -/
structure Scene where
  store : Store := {}
  tally : Tally := {}
  /-- The changes made known, the latest one first. -/
  published : List Change := []
  /-- All that has been asked, the latest question first. -/
  asked : List Surroundings.Question := []

namespace Scene

variable {α β : Type}

/-- Notes a question. -/
def note (s : Scene) (q : Surroundings.Question) : Scene :=
  { s with asked := q :: s.asked }

/-- Notes a question to the storage, which leaves the given store. -/
def keep (s : Scene) (q : Storage.Question) (store : Store) : Scene :=
  { s.note (.storage q) with store }

/-- Counts an occurrence. -/
def count (s : Scene) (occurrence : Occurrence) : Scene :=
  { s.note (.count occurrence) with tally := s.tally.add occurrence }

/-- Makes a change known. -/
def publish (s : Scene) (change : Change) : Scene :=
  { s.note (.publish change) with published := change :: s.published }

/-- The questions to the directories and to the storage, the latest one first. -/
def calls (s : Scene) : List Surroundings.Question :=
  s.asked.filter (·.isCall)

/-- Answers a question of the service; none if it has to wait for an open transaction. -/
def answer (c : Collaborators) (q : Surroundings.Question) :
    StateT Scene Option (Surroundings.Answer q) :=
  fun s =>
    match q with
    | .directory q => some (c.directory q, s.note (.directory q))
    | .storage q =>
      (Store.answer? q s.store).map fun (value, store) => (⟨0, value⟩, s.keep q store)
    | .now => some (c.clock s.asked, s.note .now)
    | .count occurrence => some ((), s.count occurrence)
    | .tally => some (s.tally, s.note .tally)
    | .publish change => some ((), s.publish change)

/-- Carries a request out; none if it would wait for ever. -/
def run (c : Collaborators) (service : Service α) (s : Scene) :
    Option (Except Refusal α × Scene) :=
  ((ExceptT.run service).interpret (answer c)).run s

section Sequencing

variable (c : Collaborators) {s s' : Scene} {first : Service α} {next : α → Service β}

theorem run_throw (refusal : Refusal) (s : Scene) :
    run c (throw refusal : Service α) s = some (.error refusal, s) :=
  rfl

theorem run_bind (first : Service α) (next : α → Service β) (s : Scene) :
    run c (first >>= next) s =
      (run c first s).bind fun outcome =>
        match outcome.1 with
        | .ok value => run c (next value) outcome.2
        | .error refusal => some (.error refusal, outcome.2) := by
  -- below its refusals a service is a dialogue, and sequences of dialogues are answered in sequence
  have hinterpret := Dialogue.interpret_bind (I := Surroundings) (answer c) (ExceptT.run first)
    (ExceptT.bindCont next)
  refine (congrArg (StateT.run · s) hinterpret).trans ?_
  change Option.bind _ _ = Option.bind _ _
  congr
  funext outcome
  obtain ⟨result, after⟩ := outcome
  cases result with
  | ok value => rfl
  | error refusal => rfl

theorem run_tryCatch (body : Service α) (handler : Refusal → Service α) (s : Scene) :
    run c (tryCatch body handler) s =
      (run c body s).bind fun outcome =>
        match outcome.1 with
        | .ok value => some (.ok value, outcome.2)
        | .error refusal => run c (handler refusal) outcome.2 := by
  -- what follows the body depends on how it ended, and is a dialogue in its own right
  let rest (result : Except Refusal α) : Dialogue Surroundings (Except Refusal α) :=
    match result with
    | .ok value => .done (.ok value)
    | .error refusal => ExceptT.run (handler refusal)
  have htry : ExceptT.run (tryCatch body handler) = (ExceptT.run body).bind rest := by
    change Dialogue.bind _ _ = Dialogue.bind _ _
    congr
    funext result
    cases result <;> rfl
  have hinterpret := Dialogue.interpret_bind (I := Surroundings) (answer c) (ExceptT.run body) rest
  rw [run, htry]
  refine (congrArg (StateT.run · s) hinterpret).trans ?_
  change Option.bind _ _ = Option.bind _ _
  congr
  funext outcome
  obtain ⟨result, after⟩ := outcome
  cases result with
  | ok value => rfl
  | error refusal => rfl

variable {c}

theorem run_bind_ok {value : α} (h : run c first s = some (.ok value, s')) :
    run c (first >>= next) s = run c (next value) s' := by
  rw [run_bind, h]
  rfl

theorem run_bind_error {refusal : Refusal} (h : run c first s = some (.error refusal, s')) :
    run c (first >>= next) s = some (.error refusal, s') := by
  rw [run_bind, h]
  rfl

theorem run_bind_none (h : run c first s = none) : run c (first >>= next) s = none := by
  rw [run_bind, h]
  rfl

end Sequencing

section Questions

variable {c : Collaborators} {s : Scene}

theorem run_count (occurrence : Occurrence) :
    run c (Service.count occurrence) s = some (.ok (), s.count occurrence) :=
  rfl

theorem run_now : run c Service.now s = some (.ok (c.clock s.asked), s.note .now) :=
  rfl

theorem run_ask_storage {q : Storage.Question} {value : Storage.Answer q} {store : Store}
    (h : Store.answer? q s.store = some (value, store)) :
    run c (Service.ask (.storage q)) s = some (.ok ⟨0, value⟩, s.keep q store) := by
  change ((Store.answer? q s.store).map _).bind _ = _
  rw [h]
  rfl

end Questions

end Scene

end TeamCalendar
