import TeamCalendar.Proofs.Scene
import TeamCalendar.Rehearsal

/-!
# Rehearsals as scenes

A rehearsal in which nothing goes wrong with the storage carries requests out as a scene does, if
the collaborators are those of the rehearsal.  What is known of all scenes is therefore known of
such rehearsals.
-/

namespace TeamCalendar

/-- What a rehearsal notes of a question. -/
def Surroundings.Question.call? : Surroundings.Question → Option Call
  | directory q => some q.toCall
  | storage q => some q.toCall
  | now | count _ | tally | publish _ => none

namespace Rehearsal

/-- How the directories and the clock of a rehearsal behave. -/
def collaborators (r : Rehearsal) : Collaborators where
  directory q :=
    { delay := (r.mishap q.name).delay
      value := match (r.mishap q.name).error with
        | some error => directoryFailure error q
        | none => r.consult q }
  clock _ := r.clock

/-- The rehearsal when it has come to a scene. -/
def amid (r : Rehearsal) (s : Scene) : Rehearsal :=
  { r with
    store := s.store
    tally := s.tally
    calls := s.asked.filterMap (·.call?)
    published := s.published }

/-- Nothing goes wrong with the storage. -/
def Smooth (r : Rehearsal) : Prop :=
  ∀ q : Storage.Question, r.mishap q.toCall.name = {}

variable {α : Type} {r : Rehearsal}

/-- Questions are answered as in a scene. -/
theorem answer_amid (hsmooth : r.Smooth) (q : Surroundings.Question) (s : Scene) :
    answer q (r.amid s) =
      (Scene.answer r.collaborators q s).map fun outcome => (outcome.1, r.amid outcome.2) := by
  cases q with
  | directory q => rfl
  | storage q =>
    have hmishap : ((r.amid s).note q.toCall).mishap q.toCall.name = {} := hsmooth q
    change Option.bind (keep q (((r.amid s).note q.toCall).mishap q.toCall.name)
      ((r.amid s).note q.toCall)) _ = _
    rw [hmishap]
    change Option.bind ((Store.answer? q s.store).map _) _ = Option.map _ (Option.map _ _)
    cases Store.answer? q s.store with
    | none => rfl
    | some outcome => rfl
  | now => rfl
  | count occurrence => rfl
  | tally => rfl
  | publish change => rfl

/-- A rehearsal without mishaps of the storage is a scene with its collaborators. -/
theorem run_amid (hsmooth : r.Smooth) (service : Service α) (s : Scene) :
    (r.amid s).run (ExceptT.run service) =
      (s.run r.collaborators service).map fun outcome => (outcome.1, r.amid outcome.2) := by
  unfold run Scene.run
  -- the dialogue is followed question by question, and both sides answer each one alike
  generalize ExceptT.run service = dialogue
  induction dialogue generalizing s with
  | done value => rfl
  | ask q next ih =>
    refine (congrArg (Option.bind · _) (answer_amid hsmooth q s)).trans ?_
    change Option.bind (Option.map _ (Scene.answer r.collaborators q s)) _ =
      Option.map _ (Option.bind (Scene.answer r.collaborators q s) _)
    cases Scene.answer r.collaborators q s with
    | none => rfl
    | some outcome => exact ih outcome.1 outcome.2

end Rehearsal

/-! ## A small team -/

namespace Sample

def team : TeamId :=
  ⟨1⟩

def coach : UserId :=
  ⟨2⟩

def player : UserId :=
  ⟨3⟩

/-- A rehearsal with the team; the coach is listed twice. -/
def rehearsal : Rehearsal where
  teams := (∅ : Table TeamId Team).insert team
    { members := [(coach, .coach), (player, .player)]
      roster := some [⟨coach, .coach⟩, ⟨player, .player⟩, ⟨coach, .coach⟩] }
  profiles := (∅ : Profiles).insert player
    { firstName := "Pia", lastName := "Player", email := "pia@example.org" }

/-- Settings under which coaches and managers may write. -/
def settings : RuntimeSettings where
  bindAddr := "127.0.0.1:8080"
  apiToken := none
  rpcTimeoutMs := 1000
  eventWriteRoles := Role.writers
  maxBodyBytes := 65536
  requestTimeoutSeconds := 10

/-- A new event of the team, not yet in normal form. -/
def training : NewEvent where
  teamId := team
  title := "Training"
  eventType := " Practice"
  location := "Hall"
  startTime := .epoch
  endTime := ⟨3600, 1, by decide⟩

end Sample

end TeamCalendar
