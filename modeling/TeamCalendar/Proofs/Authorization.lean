import TeamCalendar.Proofs.Run

/-!
# Nothing happens without authorization

Before anything else is asked, apart from the event that a request names, the team directory is
asked once for the role of the requester in the team concerned.  If it fails, the request is refused
as one that cannot be judged, if it shows no permitted role the request is denied, and in both cases
nothing has been asked besides and nothing has changed.
-/

namespace TeamCalendar

/-- The team and the users whose roles are asked for. -/
def Surroundings.Question.membership? : Surroundings.Question → Option (TeamId × List UserId)
  | directory (.membership teamId userIds) => some (teamId, userIds)
  | _ => none

namespace Scene

/-- The questions for roles, the latest one first. -/
def memberships (s : Scene) : List (TeamId × List UserId) :=
  s.calls.filterMap (·.membership?)

/-- Nothing has been asked of directories and storage but the given questions, and nothing has
changed. -/
structure TurnedAway (s : Scene) (questions : List Surroundings.Question) (s' : Scene) : Prop where
  calls : s'.calls = questions ++ s.calls
  store : s'.store = s.store
  published : s'.published = s.published

theorem StoredAfter.memberships {calls : List Surroundings.Question} {s : Scene}
    (h : StoredAfter calls s) : s.memberships = calls.filterMap (·.membership?) := by
  obtain ⟨questions, hcalls⟩ := h
  have hnone : (questions.map Surroundings.Question.storage).filterMap (·.membership?) = [] := by
    rw [List.filterMap_map, List.filterMap_eq_nil_iff]
    intro q hq
    rfl
  rw [Scene.memberships, hcalls, List.filterMap_append, hnone, List.nil_append]

section Memberships

variable {c : Collaborators} {settings : RuntimeSettings} {requester : UserId} {s s' : Scene}

theorem memberships_gated {teamId : TeamId} :
    (s.gated c settings requester teamId).memberships =
      (teamId, [requester]) :: s.memberships := by
  rw [memberships, calls_gated]
  rfl

theorem Creation.memberships {new : NewEvent} {result : Except Refusal CreatedEvent}
    (h : s.Creation c settings requester new result s')
    (hvalid : new.normalized.validate = .ok ()) :
    s'.memberships = (new.teamId, [requester]) :: s.memberships := by
  cases h with
  | flawed hflaw =>
    rw [hvalid] at hflaw
    cases hflaw
  | denied => exact memberships_gated
  | unlisted _ _ _ _ hcalls =>
    rw [Scene.memberships, hcalls]
    rfl
  | unwritten _ _ _ _ _ _ hcalls => exact hcalls.memberships
  | created _ _ _ _ _ _ hcalls => exact hcalls.memberships

theorem Update.memberships {teamId : TeamId} {id : EventId} {patch : Patch}
    {result : Except Refusal Event}
    (h : s.Update c settings requester teamId id patch result s') :
    s'.memberships = (teamId, [requester]) :: s.memberships := by
  cases h with
  | denied => exact memberships_gated
  | empty => rfl
  | unpatched _ _ _ hcalls => exact hcalls.memberships
  | changed _ _ _ hcalls => exact hcalls.memberships

theorem Response.memberships {id : EventId} {status : Status} {result : Except Refusal Event}
    {event : Event} (hevent : s.store.committed.events[id]? = some event)
    (h : s.Response c settings requester id status result s') :
    s'.memberships = (event.teamId, [requester]) :: s.memberships := by
  cases h with
  | missing hmissing =>
    rw [hevent] at hmissing
    cases hmissing
  | denied hstored =>
    rw [hevent, Option.some.injEq] at hstored
    rw [hstored]
    exact memberships_gated
  | absent hstored _ _ _ hcalls =>
    rw [hevent, Option.some.injEq] at hstored
    rw [hstored]
    exact hcalls.memberships
  | responded hstored _ _ _ hcalls =>
    cases hevent.symm.trans hstored
    exact hcalls.memberships

theorem Reading.memberships {id : EventId} {result : Except Refusal EventDetails} {event : Event}
    (hevent : s.store.committed.events[id]? = some event)
    (h : s.Reading c settings requester id result s') :
    s'.memberships = (event.teamId, [requester]) :: s.memberships := by
  cases h with
  | missing hmissing =>
    rw [hevent] at hmissing
    cases hmissing
  | denied hstored =>
    rw [hevent, Option.some.injEq] at hstored
    rw [hstored]
    exact memberships_gated
  | unknown hstored _ _ _ hcalls =>
    rw [hevent, Option.some.injEq] at hstored
    rw [Scene.memberships, hcalls, hstored]
    rfl
  | deserted hstored _ _ _ _ hcalls =>
    cases hevent.symm.trans hstored
    rw [Scene.memberships, hcalls]
    rfl
  | attended hstored _ _ _ _ _ _ hcalls =>
    cases hevent.symm.trans hstored
    rw [Scene.memberships, hcalls]
    rfl

theorem Listing.memberships {teamId : TeamId} {result : Except Refusal (List Event)}
    (h : s.Listing c settings requester teamId result s') :
    s'.memberships = (teamId, [requester]) :: s.memberships := by
  cases h with
  | denied => exact memberships_gated
  | listed => rfl

end Memberships

end Scene

/-! ## What stands before an authorization -/

namespace Operation

/-- Why an operation is refused before anyone is asked for roles: the new event has a flaw, or the
event that is named does not exist. -/
def unfit? (operation : Operation) (s : Scene) : Option Refusal :=
  match operation with
  | create new =>
    match new.normalized.validate with
    | .ok () => none
    | .error flaw => some (.ofFlaw flaw)
  | respond id _ | read id =>
    match s.store.committed.events[id]? with
    | some _ => none
    | none => some (.notFound s!"event {id}")
  | update .. | list _ => none

/-- The team concerned: the one that is named, or that of the event that is named. -/
def team? (operation : Operation) (s : Scene) : Option TeamId :=
  match operation with
  | create new => some new.teamId
  | update teamId _ _ | list teamId => some teamId
  | respond id _ | read id => (s.store.committed.events[id]?).map (·.teamId)

/-- The roles that permit an operation. -/
def required (operation : Operation) (settings : RuntimeSettings) : List Role :=
  match operation with
  | create _ | update .. => settings.eventWriteRoles
  | respond .. | read _ | list _ => Role.readers

/-- What is asked before anyone is asked for roles: an event that is named is looked up. -/
def lookup : Operation → List Surroundings.Question
  | respond id _ | read id => [.storage (.findEvent id)]
  | create _ | update .. | list _ => []

end Operation

namespace Scene

variable {s s' : Scene} {visit : Visit}

/-- A visit ends as its service does. -/
theorem carryOut_of_run {α : Type} {service : Service α} {f : α → Reply} {result : Except Refusal α}
    (h : run visit.collaborators service s = some (result, s'))
    (hservice : visit.service = f <$> service) : s.carryOut visit = some (result.map f, s') := by
  rw [carryOut, hservice, run_map, h]
  rfl

theorem TurnedAway.gated (c : Collaborators) (settings : RuntimeSettings) (requester : UserId)
    (teamId : TeamId) {questions : List Surroundings.Question} (h : s.TurnedAway questions s') :
    s.TurnedAway (.directory (.membership teamId [requester]) :: questions)
      (s'.gated c settings requester teamId) where
  calls := by rw [calls_gated, h.calls, List.cons_append]
  store := by rw [store_gated, h.store]
  published := by rw [published_gated, h.published]

/-- The scene after a named event has been looked up. -/
def lookedUp (s : Scene) : Operation → Scene
  | .respond id _ | .read id => s.note (.storage (.findEvent id))
  | .create _ | .update .. | .list _ => s

theorem turnedAway_lookedUp (s : Scene) (operation : Operation) :
    s.TurnedAway operation.lookup (s.lookedUp operation) := by
  cases operation <;> exact ⟨rfl, rfl, rfl⟩

/-- What is not fit to be carried out is refused without asking for roles. -/
theorem carryOut_of_unfit {refusal : Refusal} (h : visit.operation.unfit? s = some refusal) :
    s.carryOut visit = some (.error refusal, s.lookedUp visit.operation) := by
  obtain ⟨settings, requester, operation, c⟩ := visit
  cases operation with
  | create new =>
    cases hvalid : new.normalized.validate with
    | ok => simp [Operation.unfit?, hvalid] at h
    | error flaw =>
      simp only [Operation.unfit?, hvalid, Option.some.injEq] at h
      subst h
      exact carryOut_of_run (run_createEvent_flawed hvalid) rfl
  | update teamId id patch => cases h
  | respond id status =>
    cases hevent : s.store.committed.events[id]? with
    | some event => simp [Operation.unfit?, hevent] at h
    | none =>
      simp only [Operation.unfit?, hevent, Option.some.injEq] at h
      subst h
      exact carryOut_of_run (run_respond_missing hevent) rfl
  | read id =>
    cases hevent : s.store.committed.events[id]? with
    | some event => simp [Operation.unfit?, hevent] at h
    | none =>
      simp only [Operation.unfit?, hevent, Option.some.injEq] at h
      subst h
      exact carryOut_of_run (run_eventDetails_missing hevent) rfl
  | list teamId => cases h

/-- For everything else it is known which team is concerned. -/
theorem exists_team_of_fit {operation : Operation} (hfit : operation.unfit? s = none) :
    ∃ teamId, operation.team? s = some teamId := by
  cases operation with
  | create new => exact ⟨_, rfl⟩
  | update teamId id patch => exact ⟨_, rfl⟩
  | respond id status =>
    cases hevent : s.store.committed.events[id]? with
    | some event => exact ⟨event.teamId, by rw [Operation.team?, hevent]; rfl⟩
    | none => simp [Operation.unfit?, hevent] at hfit
  | read id =>
    cases hevent : s.store.committed.events[id]? with
    | some event => exact ⟨event.teamId, by rw [Operation.team?, hevent]; rfl⟩
    | none => simp [Operation.unfit?, hevent] at hfit
  | list teamId => exact ⟨_, rfl⟩

/-- The other operations ask for the role of the requester first, and go no further if they are
refused. -/
theorem carryOut_of_gate_error {teamId : TeamId} {refusal : Refusal}
    (hfit : visit.operation.unfit? s = none) (hteam : visit.operation.team? s = some teamId)
    (hgate : visit.collaborators.gate visit.settings visit.requester teamId
      (visit.operation.required visit.settings) = .error refusal) :
    s.carryOut visit = some (.error refusal, (s.lookedUp visit.operation).gated
      visit.collaborators visit.settings visit.requester teamId) := by
  obtain ⟨settings, requester, operation, c⟩ := visit
  cases operation with
  | create new =>
    cases hteam
    cases hvalid : new.normalized.validate with
    | ok => exact carryOut_of_run (run_createEvent_denied hvalid hgate) rfl
    | error flaw => simp [Operation.unfit?, hvalid] at hfit
  | update teamId id patch =>
    cases hteam
    exact carryOut_of_run (run_updateEvent_denied hgate) rfl
  | respond id status =>
    obtain ⟨event, hevent, rfl⟩ := Option.map_eq_some_iff.1 hteam
    exact carryOut_of_run (run_respond_denied hevent hgate) rfl
  | read id =>
    obtain ⟨event, hevent, rfl⟩ := Option.map_eq_some_iff.1 hteam
    exact carryOut_of_run (run_eventDetails_denied hevent hgate) rfl
  | list teamId =>
    cases hteam
    exact carryOut_of_run (run_teamEvents_denied hgate) rfl

end Scene

/-- An operation that is fit asks for roles once, for that of the requester in the team concerned.
-/
theorem Entry.memberships {entry : Entry} {teamId : TeamId}
    (hfit : entry.visit.operation.unfit? entry.before = none)
    (hteam : entry.visit.operation.team? entry.before = some teamId) :
    entry.after.memberships = (teamId, [entry.requester]) :: entry.before.memberships := by
  cases hoperation : entry.visit.operation with
  | create new =>
    rw [hoperation] at hfit hteam
    cases hteam
    obtain ⟨result, hreply, hend⟩ := creation hoperation
    cases hvalid : new.normalized.validate with
    | ok => exact hend.memberships hvalid
    | error flaw => simp [Operation.unfit?, hvalid] at hfit
  | update teamId id patch =>
    rw [hoperation] at hteam
    cases hteam
    obtain ⟨result, hreply, hend⟩ := update hoperation
    exact hend.memberships
  | respond id status =>
    rw [hoperation] at hteam
    obtain ⟨event, hevent, rfl⟩ := Option.map_eq_some_iff.1 hteam
    obtain ⟨result, hreply, hend⟩ := response hoperation
    exact hend.memberships hevent
  | read id =>
    rw [hoperation] at hteam
    obtain ⟨event, hevent, rfl⟩ := Option.map_eq_some_iff.1 hteam
    obtain ⟨result, hreply, hend⟩ := reading hoperation
    exact hend.memberships hevent
  | list teamId =>
    rw [hoperation] at hteam
    cases hteam
    obtain ⟨result, hreply, hend⟩ := listing hoperation
    exact hend.memberships

/-- Apart from new events with a flaw and events that do not exist, which are refused at once, every
operation asks once for the role of the requester in the team concerned.  If the answer is lost, the
request cannot be judged; if it shows no permitted role, the request is forbidden.  In both cases
nothing else has been asked, and nothing has changed. -/
theorem Scene.authorization_precedes_effect (s : Scene) (visit : Visit) :
    (∀ refusal, visit.operation.unfit? s = some refusal →
      ∃ s', s.carryOut visit = some (.error refusal, s') ∧
        s.TurnedAway visit.operation.lookup s') ∧
    (visit.operation.unfit? s = none →
      ∃ teamId, visit.operation.team? s = some teamId ∧
        (∀ reply s', s.carryOut visit = some (reply, s') →
          s'.memberships = (teamId, [visit.requester]) :: s.memberships) ∧
        ((visit.collaborators.membership teamId [visit.requester]).Lost visit.settings.deadline →
          ∃ cause s', s.carryOut visit = some (.error (.unavailable cause), s') ∧
            s.TurnedAway (.directory (.membership teamId [visit.requester]) ::
              visit.operation.lookup) s') ∧
        (∀ membership, (visit.collaborators.membership teamId [visit.requester]).Gives
            visit.settings.deadline membership →
          (∀ role, membership[visit.requester]? = some role →
            role = .unknown ∨ role ∉ visit.operation.required visit.settings) →
          ∃ s', s.carryOut visit = some (.error .forbidden, s') ∧
            s.TurnedAway (.directory (.membership teamId [visit.requester]) ::
              visit.operation.lookup) s') ∧
        (s.store.staged = none → (s.carryOut visit).isSome)) := by
  constructor
  · intro refusal hunfit
    exact ⟨_, carryOut_of_unfit hunfit, turnedAway_lookedUp s _⟩
  · intro hfit
    obtain ⟨teamId, hteam⟩ := exists_team_of_fit hfit
    have haway := (turnedAway_lookedUp s visit.operation).gated visit.collaborators visit.settings
      visit.requester teamId
    refine ⟨teamId, hteam, ?_, ?_, ?_, fun hfree => isSome_carryOut hfree visit⟩
    · intro reply s' hcarried
      let entry : Entry := { visit, before := s, reply, after := s', carried := hcarried }
      exact entry.memberships hfit hteam
    · intro hlost
      obtain ⟨cause, hgate⟩ := Collaborators.exists_gate_eq_unavailable hlost
      exact ⟨cause, _, carryOut_of_gate_error hfit hteam hgate, haway⟩
    · intro membership hgives hdenied
      have hgate := Collaborators.gate_eq_forbidden hgives hdenied
      exact ⟨_, carryOut_of_gate_error hfit hteam hgate, haway⟩

/-- A stranger cannot respond to an event. -/
theorem Scene.authorization_precedes_effect_sample :
    ∃ s', Sample.creation.after.carryOut (Sample.visit ⟨9⟩ (.respond Sample.trainingId .accepted)) =
        some (.error .forbidden, s') ∧
      s'.store = Sample.creation.after.store ∧ s'.published = Sample.creation.after.published := by
  obtain ⟨teamId, hteam, -, -, hdenied, -⟩ := (authorization_precedes_effect
    Sample.creation.after (Sample.visit ⟨9⟩ (.respond Sample.trainingId .accepted))).2 rfl
  cases hteam
  have hstranger : ∀ role, (∅ : Membership)[(⟨9⟩ : UserId)]? = some role →
      role = .unknown ∨ role ∉ Role.readers := by
    intro role hrole
    rw [Std.ExtTreeMap.getElem?_empty] at hrole
    cases hrole
  obtain ⟨s', hcarried, haway⟩ := hdenied ∅ ⟨by decide, rfl⟩ hstranger
  exact ⟨s', hcarried, haway.store, haway.published⟩

end TeamCalendar
