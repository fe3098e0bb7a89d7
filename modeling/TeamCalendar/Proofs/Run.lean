import TeamCalendar.Proofs.Scene.Creation
import TeamCalendar.Proofs.Scene.Reading
import TeamCalendar.Proofs.Scene.Rehearsal
import TeamCalendar.Proofs.Scene.Response
import TeamCalendar.Proofs.Scene.Update

/-!
# Runs

A run is a sequence of requests that are carried out one after the other, from an empty store on.
Each request brings its own requester, settings and collaborators.  Between requests the writing of
attendance may be made to fail, or made to work again.

* `Entry` is a request that has been carried out, and `RunFrom` relates a log of entries, the latest
  one first, to the scene that it leads to; a `Run` starts with an empty store.
* `Entry.effect` says what one request does to the committed tables; invariants are proved from it.
-/

namespace TeamCalendar

/-- What is asked of the service. -/
inductive Operation where
  | create (new : NewEvent)
  | update (teamId : TeamId) (id : EventId) (patch : Patch)
  | respond (id : EventId) (status : Status)
  | read (id : EventId)
  | list (teamId : TeamId)

/-- What the service answers to a request that is not refused. -/
inductive Reply where
  | created (created : CreatedEvent)
  | updated (event : Event)
  | responded (event : Event)
  | details (details : EventDetails)
  | events (events : List Event)

/-- A request with all that it depends on, the store aside. -/
structure Visit where
  settings : RuntimeSettings
  requester : UserId
  operation : Operation
  collaborators : Collaborators

/-- What the service does for a visit. -/
def Visit.service (visit : Visit) : Service Reply :=
  match visit.operation with
  | .create new => .created <$> Service.createEvent visit.settings visit.requester new
  | .update teamId id patch =>
    .updated <$> Service.updateEvent visit.settings visit.requester teamId id patch
  | .respond id status =>
    .responded <$> Service.respond visit.settings visit.requester id status
  | .read id => .details <$> Service.eventDetails visit.settings visit.requester id
  | .list teamId => .events <$> Service.teamEvents visit.settings visit.requester teamId

namespace Scene

variable {α β : Type}

/-- Carries a visit out; none if it would wait for ever. -/
def carryOut (s : Scene) (visit : Visit) : Option (Except Refusal Reply × Scene) :=
  run visit.collaborators visit.service s

theorem run_map (c : Collaborators) (f : α → β) (service : Service α) (s : Scene) :
    run c (f <$> service) s =
      (run c service s).map fun outcome => (outcome.1.map f, outcome.2) := by
  rw [map_eq_pure_bind, run_bind]
  cases run c service s with
  | none => rfl
  | some outcome =>
    obtain ⟨result, s'⟩ := outcome
    cases result <;> rfl

end Scene

/-- A request that has been carried out. -/
structure Entry where
  visit : Visit
  before : Scene
  reply : Except Refusal Reply
  after : Scene
  /-- The request was carried out in that scene, with that answer. -/
  carried : before.carryOut visit = some (reply, after)

/-- The entry of a visit that can be carried out. -/
def Entry.of (s : Scene) (visit : Visit) (h : (s.carryOut visit).isSome) : Entry where
  visit := visit
  before := s
  reply := ((s.carryOut visit).get h).1
  after := ((s.carryOut visit).get h).2
  carried := (Option.some_get h).symm

/-- A log of requests, the latest one first, and the scene to which they lead from one of which a
condition holds. -/
inductive RunFrom (Start : Scene → Prop) : List Entry → Scene → Prop where
  | start {s : Scene} (hstart : Start s) : RunFrom Start [] s
  /-- The writing of attendance is made to fail, or no longer. -/
  | switch {log : List Entry} {s : Scene} (hrun : RunFrom Start log s) (failing : Bool) :
    RunFrom Start log { s with store := s.store.setFailing failing }
  /-- A request is carried out. -/
  | visit {log : List Entry} (entry : Entry) (hrun : RunFrom Start log entry.before) :
    RunFrom Start (entry :: log) entry.after

/-- Nothing is stored, and no transaction is open. -/
structure Scene.Empty (s : Scene) : Prop where
  empty : s.store.committed = {}
  free : s.store.staged = none

/-- A run from an empty store on. -/
abbrev Run : List Entry → Scene → Prop :=
  RunFrom Scene.Empty

namespace Entry

abbrev collaborators (entry : Entry) : Collaborators :=
  entry.visit.collaborators

abbrev settings (entry : Entry) : RuntimeSettings :=
  entry.visit.settings

abbrev requester (entry : Entry) : UserId :=
  entry.visit.requester

/-- The committed tables before a request. -/
abbrev lower (entry : Entry) : Tables :=
  entry.before.store.committed

/-- The committed tables after a request. -/
abbrev upper (entry : Entry) : Tables :=
  entry.after.store.committed

/-- An event that the request has created did not have the identifier of a stored one. -/
def Fresh (entry : Entry) : Prop :=
  ∀ created, entry.reply = .ok (.created created) → entry.lower.events[created.event.id]? = none

/-- The request has not written anything: it was refused, or it was one that reads. -/
inductive Idle (entry : Entry) : Prop where
  | refused {refusal : Refusal} (hreply : entry.reply = .error refusal)
  | read {id : EventId} {details : EventDetails} (hoperation : entry.visit.operation = .read id)
    (hreply : entry.reply = .ok (.details details))
  | listed {teamId : TeamId} {events : List Event}
    (hoperation : entry.visit.operation = .list teamId)
    (hreply : entry.reply = .ok (.events events))

/-- What a request does to the committed tables. -/
inductive Effect (entry : Entry) : Tables → Prop where
  /-- They stay as they are. -/
  | none (hidle : entry.Idle) : Effect entry entry.lower
  /-- An event is added, with a record for each user of the roster. -/
  | created {new : NewEvent} {roster : List Member} {rows : Nat} {time : Instant}
    (hoperation : entry.visit.operation = .create new)
    (hvalid : new.normalized.validate = .ok ())
    (hroster : (entry.collaborators.roster new.teamId).Gives entry.settings.deadline roster)
    (hreply : entry.reply = .ok (.created
      { event := entry.before.store.newEvent new.normalized, attendanceRows := rows })) :
    Effect entry
      { entry.lower.putEvent (entry.before.store.newEvent new.normalized) with
        attendance := entry.lower.attendance ∪ AttendanceRecord.tabulate
          (AttendanceRecord.cohort (entry.before.store.newEvent new.normalized) roster time) }
  /-- A changed event takes the place of the old one. -/
  | updated {teamId : TeamId} {id : EventId} {patch : Patch} {changed : Event}
    (hoperation : entry.visit.operation = .update teamId id patch)
    (hpatched : entry.lower.Patched teamId id patch (.ok changed))
    (hreply : entry.reply = .ok (.updated changed)) :
    Effect entry (entry.lower.putEvent changed)
  /-- The record of the requester gets another status. -/
  | responded {id : EventId} {status : Status} {event : Event} {record : AttendanceRecord}
    {time : Instant} (hoperation : entry.visit.operation = .respond id status)
    (hevent : entry.lower.events[id]? = some event)
    (hrecord : entry.lower.attendance[AttendanceKey.mk id entry.requester]? = some record)
    (hreply : entry.reply = .ok (.responded event)) :
    Effect entry
      { entry.lower with
        attendance := entry.lower.attendance.insert ⟨id, entry.requester⟩
          { record with status, updatedAt := time } }

/-- What is known of an entry whose request is a service with known ends. -/
theorem exists_of_ends {α : Type} {entry : Entry} {service : Service α} {f : α → Reply}
    {P : Except Refusal α → Scene → Prop} (hservice : entry.visit.service = f <$> service)
    (hends : (∃ result s', Scene.run entry.collaborators service entry.before = some (result, s') ∧
        P result s') ∨
      entry.before.store.staged ≠ Option.none ∧
        Scene.run entry.collaborators service entry.before = Option.none) :
    ∃ result, entry.reply = result.map f ∧ P result entry.after := by
  have hcarried := entry.carried
  rw [Scene.carryOut, hservice, Scene.run_map] at hcarried
  rcases hends with ⟨result, s', hrun, hresult⟩ | ⟨-, hrun⟩
  · rw [hrun, Option.map_some, Option.some.injEq, Prod.mk.injEq] at hcarried
    obtain ⟨hreply, rfl⟩ := hcarried
    exact ⟨result, hreply.symm, hresult⟩
  · rw [hrun] at hcarried
    cases hcarried

section Operations

variable {entry : Entry}

theorem creation {new : NewEvent} (h : entry.visit.operation = .create new) :
    ∃ result, entry.reply = result.map .created ∧
      entry.before.Creation entry.collaborators entry.settings entry.requester new result
        entry.after := by
  refine exists_of_ends ?_ (Scene.run_createEvent _ _ _ new _)
  rw [Visit.service, h]

theorem update {teamId : TeamId} {id : EventId} {patch : Patch}
    (h : entry.visit.operation = .update teamId id patch) :
    ∃ result, entry.reply = result.map .updated ∧
      entry.before.Update entry.collaborators entry.settings entry.requester teamId id patch result
        entry.after := by
  refine exists_of_ends ?_ (Scene.run_updateEvent _ _ _ teamId id patch _)
  rw [Visit.service, h]

theorem response {id : EventId} {status : Status}
    (h : entry.visit.operation = .respond id status) :
    ∃ result, entry.reply = result.map .responded ∧
      entry.before.Response entry.collaborators entry.settings entry.requester id status result
        entry.after := by
  refine exists_of_ends ?_ (Scene.run_respond _ _ _ id status _)
  rw [Visit.service, h]

theorem reading {id : EventId} (h : entry.visit.operation = .read id) :
    ∃ result, entry.reply = result.map .details ∧
      entry.before.Reading entry.collaborators entry.settings entry.requester id result
        entry.after := by
  refine exists_of_ends ?_ (Or.inl (Scene.run_eventDetails _ _ _ id _))
  rw [Visit.service, h]

theorem listing {teamId : TeamId} (h : entry.visit.operation = .list teamId) :
    ∃ result, entry.reply = result.map .events ∧
      entry.before.Listing entry.collaborators entry.settings entry.requester teamId result
        entry.after := by
  refine exists_of_ends ?_ (Or.inl (Scene.run_teamEvents _ _ _ teamId _))
  rw [Visit.service, h]

end Operations

theorem Idle.effect {entry : Entry} (hidle : entry.Idle) (hkept : entry.upper = entry.lower) :
    entry.Effect entry.upper := by
  rw [hkept]
  exact .none hidle

/-- Every request has one of the effects on the committed tables. -/
theorem effect (entry : Entry) : entry.Effect entry.upper := by
  cases hoperation : entry.visit.operation with
  | create new =>
    obtain ⟨result, hreply, hend⟩ := creation hoperation
    cases result with
    | error refusal => exact Idle.effect (.refused hreply) hend.refused.committed
    | ok created =>
      cases hend with
      | created hvalid hgate hroster hworking hrecords hwrote =>
        subst hrecords
        rw [upper, hwrote.committed]
        exact .created hoperation hvalid hroster hreply
  | update teamId id patch =>
    obtain ⟨result, hreply, hend⟩ := update hoperation
    cases result with
    | error refusal => exact Idle.effect (.refused hreply) hend.refused.committed
    | ok changed =>
      cases hend with
      | changed hgate hpatched hwrote =>
        rw [upper, hwrote.committed]
        exact .updated hoperation hpatched hreply
  | respond id status =>
    obtain ⟨result, hreply, hend⟩ := response hoperation
    cases result with
    | error refusal => exact Idle.effect (.refused hreply) hend.refused.committed
    | ok event =>
      cases hend with
      | responded hevent hgate hrecord hwrote =>
        rw [upper, hwrote.committed]
        exact .responded hoperation hevent hrecord hreply
  | read id =>
    obtain ⟨result, hreply, hend⟩ := reading hoperation
    cases result with
    | error refusal => exact Idle.effect (.refused hreply) hend.kept.committed
    | ok details => exact Idle.effect (.read hoperation hreply) hend.kept.committed
  | list teamId =>
    obtain ⟨result, hreply, hend⟩ := listing hoperation
    cases result with
    | error refusal => exact Idle.effect (.refused hreply) hend.kept.committed
    | ok events => exact Idle.effect (.listed hoperation hreply) hend.kept.committed

/-- No request leaves a transaction open. -/
theorem free_after (entry : Entry) (hfree : entry.before.store.staged = Option.none) :
    entry.after.store.staged = Option.none := by
  cases hoperation : entry.visit.operation with
  | create new =>
    obtain ⟨result, hreply, hend⟩ := creation hoperation
    exact hend.free hfree
  | update teamId id patch =>
    obtain ⟨result, hreply, hend⟩ := update hoperation
    exact hend.free hfree
  | respond id status =>
    obtain ⟨result, hreply, hend⟩ := response hoperation
    exact hend.free hfree
  | read id =>
    obtain ⟨result, hreply, hend⟩ := reading hoperation
    exact hend.kept.staged.trans hfree
  | list teamId =>
    obtain ⟨result, hreply, hend⟩ := listing hoperation
    exact hend.kept.staged.trans hfree

end Entry

namespace Scene

variable {s : Scene}

/-- A service that can only end, or wait for an open transaction, ends if there is none. -/
theorem exists_run_map {α : Type} {c : Collaborators} {service : Service α} (f : α → Reply)
    {P : Except Refusal α → Scene → Prop} (hfree : s.store.staged = none)
    (hends : (∃ result s', run c service s = some (result, s') ∧ P result s') ∨
      s.store.staged ≠ none ∧ run c service s = none) :
    ∃ reply s', run c (f <$> service) s = some (reply, s') := by
  rcases hends with ⟨result, s', hrun, -⟩ | ⟨hbusy, -⟩
  · refine ⟨result.map f, s', ?_⟩
    rw [run_map, hrun]
    rfl
  · exact absurd hfree hbusy

/-- A visit is carried out if no transaction is open. -/
theorem isSome_carryOut (hfree : s.store.staged = none) (visit : Visit) :
    (s.carryOut visit).isSome := by
  rw [Option.isSome_iff_exists, Prod.exists]
  unfold carryOut Visit.service
  cases visit.operation with
  | create new => exact exists_run_map _ hfree (run_createEvent _ _ _ new s)
  | update teamId id patch => exact exists_run_map _ hfree (run_updateEvent _ _ _ teamId id patch s)
  | respond id status => exact exists_run_map _ hfree (run_respond _ _ _ id status s)
  | read id => exact exists_run_map _ hfree (Or.inl (run_eventDetails _ _ _ id s))
  | list teamId => exact exists_run_map _ hfree (Or.inl (run_teamEvents _ _ _ teamId s))

end Scene

namespace RunFrom

variable {Start Start' : Scene → Prop} {log : List Entry} {s : Scene}

theorem mono (hstart : ∀ s, Start s → Start' s) (hrun : RunFrom Start log s) :
    RunFrom Start' log s := by
  induction hrun with
  | start h => exact .start (hstart _ h)
  | switch hrun failing ih => exact .switch ih failing
  | visit entry hrun ih => exact .visit entry ih

/-- Each request of a run was carried out at the end of a shorter run. -/
theorem exists_earlier (hrun : RunFrom Start log s) {entry : Entry} (hentry : entry ∈ log) :
    ∃ earlier, RunFrom Start earlier entry.before ∧ earlier ⊆ log := by
  induction hrun with
  | start hstart => cases hentry
  | switch hrun failing ih => exact ih hentry
  | visit last hrun ih =>
    rcases List.mem_cons.1 hentry with rfl | hentry
    · exact ⟨_, hrun, List.subset_cons_self _ _⟩
    · obtain ⟨earlier, hearlier, hsubset⟩ := ih hentry
      exact ⟨earlier, hearlier, List.subset_cons_of_subset _ hsubset⟩

end RunFrom

namespace Run

variable {log : List Entry} {s : Scene}

/-- Between requests no transaction is open. -/
theorem free (hrun : Run log s) : s.store.staged = none := by
  induction hrun with
  | start hempty => exact hempty.free
  | switch hrun failing ih => exact ih
  | visit entry hrun ih => exact entry.free_after ih

/-- A run can be continued by any request. -/
theorem exists_entry (hrun : Run log s) (visit : Visit) :
    ∃ entry : Entry, entry.visit = visit ∧ entry.before = s ∧ Run (entry :: log) entry.after :=
  ⟨.of s visit (Scene.isSome_carryOut hrun.free visit), rfl, rfl, .visit _ hrun⟩

/-- What holds of empty tables and is kept by each request holds at the end of a run. -/
theorem invariant {I : List Entry → Tables → Prop} (hrun : Run log s) (hempty : I [] {})
    (hstep : ∀ {log : List Entry} (entry : Entry), I log entry.lower → entry.Effect entry.upper →
      I (entry :: log) entry.upper) : I log s.store.committed := by
  induction hrun with
  | start hnew =>
    rw [hnew.empty]
    exact hempty
  | switch hrun failing ih => exact ih
  | visit entry hrun ih => exact hstep entry ih entry.effect

end Run

/-! ## A small run -/

namespace Sample

/-- A request among the collaborators of the team. -/
def visit (requester : UserId) (operation : Operation) : Visit where
  settings := settings
  requester := requester
  operation := operation
  collaborators := rehearsal.collaborators

/-- The coach creates an event. -/
def creation : Entry :=
  .of {} (visit coach (.create training)) rfl

/-- The identifier that the event gets. -/
def trainingId : EventId :=
  (({} : Store).newEvent training).id

/-- The player responds to the event. -/
def response : Entry :=
  .of creation.after (visit player (.respond trainingId .accepted)) rfl

/-- The coach moves the start of the event. -/
def change : Entry :=
  .of response.after
    (visit coach (.update team trainingId { startTime := some ⟨1800, 5, by decide⟩ })) rfl

/-- The requests so far, the latest one first. -/
def log : List Entry :=
  [change, response, creation]

theorem run_log : Run log change.after :=
  .visit change (.visit response (.visit creation (.start ⟨rfl, rfl⟩)))

theorem fresh_log : ∀ entry ∈ log, entry.Fresh := by
  have hcreation : creation.Fresh := by
    intro created hreply
    exact Std.ExtTreeMap.getElem?_empty
  have hresponse : response.Fresh := by
    rintro created hreply
    cases hreply
  have hchange : change.Fresh := by
    rintro created hreply
    cases hreply
  intro entry hentry
  simp only [log, List.mem_cons, List.not_mem_nil, or_false] at hentry
  rcases hentry with rfl | rfl | rfl
  · exact hchange
  · exact hresponse
  · exact hcreation

end Sample

end TeamCalendar
