import TeamCalendar.Rehearsal.Call
import TeamCalendar.Store

/-!
# Rehearsals

A rehearsal of the service without the world around it: the directories know what they have been told,
the storage is in memory, and the time stands still until it is set.  Calls and changes are noted.
Each call can be given a mishap: it may take its time, fail, or give an odd answer.
-/

namespace TeamCalendar

/-- What a directory has been told of a team. -/
structure Team where
  /-- The members that are found when their roles are asked for; a later entry counts. -/
  members : List (UserId × Role) := []
  /-- The members that are listed, if they are not the same. -/
  roster : Option (List Member) := none

namespace Team

/-- The roles of the given users. -/
def membership (team : Team) (userIds : List UserId) : Membership :=
  Std.ExtTreeMap.ofList (team.members.filter fun member => member.1 ∈ userIds) compare

/-- The members that are listed. -/
def listed (team : Team) : List Member :=
  team.roster.getD (team.members.map fun (userId, role) => { userId, role })

end Team

/-- What goes wrong with a call. -/
structure Mishap where
  /-- The milliseconds that it takes. -/
  delay : Nat := 0
  /-- Why it fails. -/
  error : Option String := none
  /-- Whether its answer is odd. -/
  odd : Bool := false

/-- The state of a rehearsal. -/
structure Rehearsal where
  /-- The storage. -/
  store : Store := {}
  /-- The teams. -/
  teams : Table TeamId Team := ∅
  /-- The users. -/
  profiles : Profiles := ∅
  /-- The mishaps by the names of calls, the latest one first. -/
  mishaps : List (String × Mishap) := []
  /-- The time. -/
  clock : Instant := .epoch
  /-- The counters. -/
  tally : Tally := {}
  /-- The calls, the latest one first. -/
  calls : List Call := []
  /-- The changes made known, the latest one first. -/
  published : List Change := []

namespace Rehearsal

/-- Notes a call. -/
def note (r : Rehearsal) (call : Call) : Rehearsal :=
  { r with calls := call :: r.calls }

/-- The mishap of a call. -/
def mishap (r : Rehearsal) (name : String) : Mishap :=
  (r.mishaps.lookup name).getD {}

/-- What a directory has been told of a team; of an unknown team it knows no members. -/
def team (r : Rehearsal) (teamId : TeamId) : Team :=
  r.teams[teamId]?.getD {}

/-- What a directory answers when nothing goes wrong. -/
def consult (r : Rehearsal) : (q : Directory.Question) → Directory.Answer q
  | .membership teamId userIds => .ok ((r.team teamId).membership userIds)
  | .roster teamId => .ok (r.team teamId).listed
  | .profiles userIds => .ok (r.profiles.filter fun userId _ => userId ∈ userIds)

/-- The answer of a directory that fails. -/
def directoryFailure (error : String) : (q : Directory.Question) → Directory.Answer q
  | .membership .. | .roster _ | .profiles _ => .error error

/-- The answer of a storage that fails; a transaction is given up in any case. -/
def storageFailure (error : String) : (q : Storage.Question) → Storage.Answer q
  | .begin | .ping | .commit | .findEvent _ | .lockEvent _ | .listTeamEvents _ | .listAttendance _
  | .insertEvent _ | .insertAttendance _ | .updateEvent _ | .updateStatus .. => .error error
  | .rollback => ()

/-- The odd answer in place of a proper one: one record less is said to have been written, an event
that was written is said to be missing, events are listed backwards, and of the records the first one
is listed again at the end before they are listed backwards. -/
def oddAnswer : (q : Storage.Question) → Storage.Answer q → Storage.Answer q
  | .insertAttendance _, answer => Except.map (· - 1) answer
  | .updateEvent _, answer => Except.map (fun _ => false) answer
  | .listTeamEvents _, answer => Except.map List.reverse answer
  | .listAttendance _, answer =>
    Except.map (fun records => (records ++ records.take 1).reverse) answer
  | _, answer => answer

/-- Whether a call can be made to fail. -/
def mayFail : Storage.Question → Bool
  | .rollback => false
  | _ => true

/-- What the storage answers; a call that is made to fail is not carried out. -/
def keep (q : Storage.Question) (mishap : Mishap) : StateT Rehearsal Option (Storage.Answer q) :=
  fun r =>
    match mishap.error.filter fun _ => mayFail q with
    | some error => some (storageFailure error q, r)
    | none =>
      (Store.answer? q r.store).map fun (answer, store) =>
        (if mishap.odd then oddAnswer q answer else answer, { r with store })

/-- Answers a question of the service. -/
def answer (q : Surroundings.Question) : StateT Rehearsal Option (Surroundings.Answer q) :=
  match q with
  | .directory q => do
    modify (·.note q.toCall)
    let r ← get
    let mishap := r.mishap q.name
    let value := match mishap.error with
      | some error => directoryFailure error q
      | none => r.consult q
    pure { delay := mishap.delay, value }
  | .storage q => do
    modify (·.note q.toCall)
    let mishap := (← get).mishap q.toCall.name
    let value ← keep q mishap
    pure { delay := mishap.delay, value }
  | .now => return (← get).clock
  | .count occurrence => modify fun r => { r with tally := r.tally.add occurrence }
  | .tally => return (← get).tally
  | .publish change => modify fun r => { r with published := change :: r.published }

/-- Carries a dialogue out; it has no result if it would wait for ever. -/
def run {α : Type} (r : Rehearsal) (dialogue : Dialogue Surroundings α) : Option (α × Rehearsal) :=
  (dialogue.interpret answer).run r

/-- Begins a step: the clock is set, and nothing is noted yet. -/
def step (r : Rehearsal) (clock : Instant) : Rehearsal :=
  { r with clock, calls := [], published := [] }

end Rehearsal

end TeamCalendar
