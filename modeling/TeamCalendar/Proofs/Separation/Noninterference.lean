import TeamCalendar.Proofs.Endpoint
import TeamCalendar.Proofs.Separation.Requests

/-!
# Teams apart

Whatever a user asks for, in the responses there is nothing of teams in which the user has no role,
and nothing is done to them.  The one exception is that a new event takes the place of any event
that happens to have its identifier.

* `Http.respondAll` responds to requests that follow one another.
* `Http.Separated` says that the same requests get the same responses with two stores, and that
  other teams are left alone.
* `Scene.Apart` is the invariant of two such runs, and `Scene.Apart.respond` is one step.
* `Http.noninterference` says when requests are separated, and what the response to a request
  depends on that names a team.
-/

namespace TeamCalendar

/-- The directory of teams shows in time that the user has a known role. -/
def Collaborators.Knows (c : Collaborators) (settings : RuntimeSettings) (userId : UserId)
    (teamId : TeamId) : Prop :=
  ∃ membership role, (c.membership teamId [userId]).Gives settings.deadline membership ∧
    membership[userId]? = some role ∧ role ≠ .unknown

theorem Collaborators.knows_of_gate {c : Collaborators} {settings : RuntimeSettings}
    {requester : UserId} {teamId : TeamId} {required : List Role} {role : Role}
    (h : c.gate settings requester teamId required = .ok role) :
    c.Knows settings requester teamId := by
  obtain ⟨membership, hgives, hrole, hknown, -⟩ := gate_eq_ok_iff.1 h
  exact ⟨membership, role, hgives, hrole, hknown⟩

theorem IdSource.mem_drawMany_succ {kind : IdKind} {source : IdSource} {count : Nat} {id : Id kind}
    (h : id ∈ source.drawMany count) : id ∈ source.drawMany (count + 1) := by
  induction count generalizing source with
  | zero => cases h
  | succ count ih =>
    rcases List.mem_cons.1 h with rfl | hrest
    · exact List.mem_cons_self
    · exact List.mem_cons_of_mem _ (ih hrest)

/-! ## One dialogue in two scenes -/

namespace Scene

variable {α β : Type} {c : Collaborators} {s s' : Scene} {tables tables' : Tables} {batches : Nat}
  {seen : TeamId → Prop}

/-- A dialogue ends with the same value in a scene and over other tables. -/
def Paired (c : Collaborators) (dialogue : Dialogue Surroundings α) (s : Scene) (tables : Tables)
    (batches : Nat) (ends : Scene → Tables → Prop) : Prop :=
  ∃ value s' tables' batches', (dialogue.interpret (answer c)).run s = some (value, s') ∧
    (dialogue.interpret (answer c)).run (s.over tables batches) =
      some (value, s'.over tables' batches') ∧ ends s' tables'

/-- A service whose result is written down. -/
theorem Twins.paired {service : Service α} {ends : Scene → Tables → Prop}
    (h : Twins c service s tables batches fun _ s' tables' => ends s' tables')
    (write : Except Refusal α → β) :
    Paired c ((ExceptT.run service).bind fun result => .done (write result)) s tables batches
      ends := by
  obtain ⟨result, s', tables', batches', hrun, hrun', hends⟩ := h
  let written := (ExceptT.run service).bind fun result => .done (write result)
  have hbind (s : Scene) : (written.interpret (answer c)).run s =
      (run c service s).map fun outcome => (write outcome.1, outcome.2) := by
    have hinterpret := Dialogue.interpret_bind (I := Surroundings) (answer c) (ExceptT.run service)
      fun result => .done (write result)
    refine (congrArg (StateT.run · s) hinterpret).trans ?_
    change Option.bind (run c service s) _ = _
    cases run c service s <;> rfl
  refine ⟨write result, s', tables', batches', (hbind _).trans ?_, (hbind _).trans ?_, hends⟩
  · rw [hrun, Option.map_some]
  · rw [hrun', Option.map_some]

/-- A response comes about alike in two scenes if the operations do that may be asked for. -/
theorem paired_course {settings : RuntimeSettings} {asks : UserId → Operation → Prop}
    {dialogue : Dialogue Surroundings α} {ends : Scene → Tables → Prop}
    (hcourse : Http.Course settings c asks dialogue)
    (hstill : ∀ s', s'.store = s.store → ends s' tables)
    (hasked : ∀ requester operation, asks requester operation →
      Twins c (Visit.service ⟨settings, requester, operation, c⟩) s tables batches
        fun _ s' tables' => ends s' tables') :
    Paired c dialogue s tables batches ends := by
  cases hcourse with
  | settled response => exact ⟨response, s, tables, batches, rfl, rfl, hstill s rfl⟩
  | counted write =>
    exact ⟨write s.tally, s.note .tally, tables, batches, rfl, rfl, hstill _ rfl⟩
  | reached write =>
    exact ⟨write ⟨0, .ok ()⟩, s.note (.storage .ping), tables, batches, rfl, rfl, hstill _ rfl⟩
  | served hasks write => exact (hasked _ _ hasks).paired write

/-- Every answer leaves the tables tidy, and so does a whole dialogue. -/
theorem tidy_interpret {dialogue : Dialogue Surroundings α} {value : α} (h : s.store.Tidy)
    (hrun : (dialogue.interpret (answer c)).run s = some (value, s')) : s'.store.Tidy := by
  induction dialogue generalizing s with
  | done value =>
    cases hrun
    exact h
  | ask q next ih =>
    obtain ⟨⟨a, after⟩, hanswer, hrest⟩ := Option.bind_eq_some_iff.1 hrun
    refine ih a ?_ hrest
    cases q with
    | storage q =>
      obtain ⟨⟨a, store⟩, hstore, hafter⟩ := Option.map_eq_some_iff.1 hanswer
      cases hafter
      exact h.answer? hstore
    | directory q => cases hanswer; exact h
    | now => cases hanswer; exact h
    | count occurrence => cases hanswer; exact h
    | tally => cases hanswer; exact h
    | publish change => cases hanswer; exact h

end Scene

/-! ## Requests that follow one another -/

namespace Http

/-- A request that arrives, and how the directories and the clock behave meanwhile. -/
structure Arrival where
  request : Request
  collaborators : Collaborators

/-- Responds to a request; none if it would wait for ever. -/
def respond (settings : RuntimeSettings) (arrival : Arrival) :
    StateT Scene Option LayeredResponse :=
  (Layers.limit settings arrival.request).interpret (Scene.answer arrival.collaborators)

/-- Responds to requests that follow one another. -/
def respondAll (settings : RuntimeSettings) :
    List Arrival → StateT Scene Option (List LayeredResponse)
  | [] => pure []
  | arrival :: arrivals => do
    let response ← respond settings arrival
    let responses ← respondAll settings arrivals
    pure (response :: responses)

theorem run_respondAll_cons {settings : RuntimeSettings} {arrival : Arrival}
    {arrivals : List Arrival} {s between s' : Scene} {response : LayeredResponse}
    {responses : List LayeredResponse}
    (hrun : (respond settings arrival).run s = some (response, between))
    (hrest : (respondAll settings arrivals).run between = some (responses, s')) :
    (respondAll settings (arrival :: arrivals)).run s = some (response :: responses, s') := by
  change Option.bind ((respond settings arrival).run s) _ = _
  rw [hrun]
  change Option.bind ((respondAll settings arrivals).run between) _ = _
  rw [hrest]
  rfl

/-- Nobody else than the given user is authenticated by the request. -/
def Arrival.By (arrival : Arrival) (settings : RuntimeSettings) (userId : UserId) : Prop :=
  ∀ requester, authenticate settings arrival.request.headers = .ok requester → requester = userId

/-- The team that a route names. -/
def Route.named? : Route → Option TeamId
  | .teamEvents segment | .teamEvent segment _ => (pathId segment).toOption
  | _ => none

/-- The team that the path of the request names. -/
def Arrival.named? (arrival : Arrival) : Option TeamId :=
  (Route.ofPath? arrival.request.path).bind Route.named?

/-- The teams in which a user has a known role during some of the requests. -/
def Sees (settings : RuntimeSettings) (userId : UserId) (arrivals : List Arrival)
    (teamId : TeamId) : Prop :=
  ∃ arrival ∈ arrivals, arrival.collaborators.Knows settings userId teamId

end Http

/-- Two scenes that differ in their tables.  They look the same to someone who sees some teams, and
none of the next identifiers is that of an event of another team. -/
structure Scene.Apart (seen : TeamId → Prop) (s : Scene) (tables : Tables) (count : Nat) :
    Prop where
  free : s.store.staged = none
  tidy : s.store.committed.Tidy
  tidy' : tables.Tidy
  agree : s.store.committed.Agree seen tables
  unused : ∀ id ∈ (s.store.ids.drawMany count : List EventId), ¬ s.store.committed.Foreign seen id

namespace Scene.Apart

variable {settings : RuntimeSettings} {requester : UserId} {arrival : Http.Arrival}
  {arrivals : List Http.Arrival} {seen : TeamId → Prop} {s s' : Scene} {tables tables' : Tables}
  {count : Nat}

/-- A request of the user gets the same response in both scenes. -/
theorem paired (h : s.Apart seen tables (count + 1)) (hby : arrival.By settings requester)
    (hseen : ∀ teamId, arrival.collaborators.Knows settings requester teamId → seen teamId)
    (batches : Nat) :
    Paired arrival.collaborators (Http.Layers.limit settings arrival.request) s tables batches
      fun s' tables' => s.store.KeepsTo seen tables s'.store tables' := by
  refine paired_course (Http.course_limit arrival.request) (fun s' hstore => ?_)
    fun user operation hasks => ?_
  · rw [hstore]
    exact .refl seen tables h.free
  · obtain rfl := hby user hasks.authentic
    let visit : Visit := ⟨settings, user, operation, arrival.collaborators⟩
    change Twins visit.collaborators visit.service s tables batches _
    refine twins_service h.free h.agree h.tidy h.tidy' (fun teamId required role hgate => ?_) ?_
    · exact hseen teamId (Collaborators.knows_of_gate hgate)
    · exact h.unused _ List.mem_cons_self

/-- The identifiers that are next after a request were next before it. -/
theorem unused_of_keepsTo (h : s.Apart seen tables (count + 1))
    (hkeeps : s.store.KeepsTo seen tables s'.store tables') :
    ∀ id ∈ (s'.store.ids.drawMany count : List EventId), ¬ s.store.committed.Foreign seen id := by
  intro id hid
  rcases hkeeps.ids with hids | hids
  · rw [hids] at hid
    exact h.unused id (IdSource.mem_drawMany_succ hid)
  · rw [hids] at hid
    exact h.unused id (List.mem_cons_of_mem _ hid)

/-- One request keeps two scenes apart, and leaves other teams alone. -/
theorem respond (h : s.Apart seen tables (count + 1)) (hby : arrival.By settings requester)
    (hseen : ∀ teamId, arrival.collaborators.Knows settings requester teamId → seen teamId)
    (batches : Nat) :
    ∃ response s' tables' batches', (Http.respond settings arrival).run s = some (response, s') ∧
      (Http.respond settings arrival).run (s.over tables batches) =
        some (response, s'.over tables' batches') ∧
      s'.Apart seen tables' count ∧
      s.store.committed.Separate seen tables s'.store.committed tables' := by
  obtain ⟨response, s', tables', batches', hrun, hrun', hkeeps⟩ := h.paired hby hseen batches
  have hseparate := hkeeps.moved.separate h.agree h.tidy.anchored h.tidy'.anchored
  have htidy := tidy_interpret (Store.tidy_of_free h.free h.tidy) hrun
  have hfree' : (s.over tables batches).store.staged = none := h.free
  have htidy' := tidy_interpret (Store.tidy_of_free hfree' h.tidy') hrun'
  have hunused := h.unused_of_keepsTo hkeeps
  refine ⟨response, s', tables', batches', hrun, hrun', ⟨hkeeps.free, htidy.committed,
    htidy'.committed, hseparate.agree, fun id hid => ?_⟩, hseparate⟩
  rw [← hseparate.spares.foreign_iff]
  exact hunused id hid

/-- Requests that follow one another leave other teams alone. -/
theorem respondAll (h : s.Apart seen tables arrivals.length)
    (hby : ∀ arrival ∈ arrivals, arrival.By settings requester)
    (hseen : ∀ arrival ∈ arrivals, ∀ teamId, arrival.collaborators.Knows settings requester teamId →
      seen teamId) (batches : Nat) :
    ∃ responses s' tables' batches',
      (Http.respondAll settings arrivals).run s = some (responses, s') ∧
      (Http.respondAll settings arrivals).run (s.over tables batches) =
        some (responses, s'.over tables' batches') ∧
      s.store.committed.Separate seen tables s'.store.committed tables' := by
  -- after each request the scenes are apart again, with one identifier fewer to come
  induction arrivals generalizing s tables batches with
  | nil => exact ⟨[], s, tables, batches, rfl, rfl, h.agree, .refl _ _, .refl _ _⟩
  | cons arrival arrivals ih =>
    obtain ⟨response, between, tables₁, batches₁, hrun, hrun', hbetween, hseparate⟩ :=
      h.respond (hby arrival List.mem_cons_self) (hseen arrival List.mem_cons_self) batches
    obtain ⟨responses, s', tables', batches', hrest, hrest', hseparate'⟩ :=
      ih hbetween (fun other hother => hby other (List.mem_cons_of_mem _ hother))
        (fun other hother => hseen other (List.mem_cons_of_mem _ hother)) batches₁
    exact ⟨response :: responses, s', tables', batches', Http.run_respondAll_cons hrun hrest,
      Http.run_respondAll_cons hrun' hrest', hseparate.trans hseparate'⟩

end Scene.Apart

namespace Http

variable {settings : RuntimeSettings} {requester : UserId} {arrivals : List Arrival} {s : Scene}
  {tables : Tables} {teamId : TeamId}

/-- Before some requests of a user, both tables are those of stores in memory, no transaction is
open, and the tables look the same to someone who sees the teams in which the user has a role. -/
structure Comparable (settings : RuntimeSettings) (requester : UserId) (arrivals : List Arrival)
    (s : Scene) (tables : Tables) : Prop where
  free : s.store.staged = none
  stored : s.store.committed.Stored
  stored' : tables.Stored
  authentic : ∀ arrival ∈ arrivals, arrival.By settings requester
  agree : s.store.committed.Agree (Sees settings requester arrivals) tables

/-- The requests get the same responses with both tables, which still look the same afterwards, and
other teams have been left alone. -/
def Separated (settings : RuntimeSettings) (requester : UserId) (arrivals : List Arrival)
    (s : Scene) (tables : Tables) (batches : Nat) : Prop :=
  ∃ responses s' tables' batches', (respondAll settings arrivals).run s = some (responses, s') ∧
    (respondAll settings arrivals).run (s.over tables batches) =
      some (responses, s'.over tables' batches') ∧
    Tables.Separate (Sees settings requester arrivals) s.store.committed tables
      s'.store.committed tables'

/-- The request gets the same response with both tables. -/
def SameResponse (settings : RuntimeSettings) (arrival : Arrival) (s : Scene) (tables : Tables)
    (batches : Nat) : Prop :=
  ∃ response s' s'', (respond settings arrival).run s = some (response, s') ∧
    (respond settings arrival).run (s.over tables batches) = some (response, s'')

theorem Route.Leads.named? {route : Route} {operation : Operation} (h : route.Leads operation)
    (hnamed : route.named? = some teamId) : operation.named? = some teamId := by
  cases h with
  | list hteam =>
    rw [Route.named?, hteam] at hnamed
    exact hnamed
  | update hteam hid patch =>
    rw [Route.named?, hteam] at hnamed
    exact hnamed
  | create new => cases hnamed
  | read hid => cases hnamed
  | respond hid status => cases hnamed

/-- The response to a request that names a team depends on the events of the team only. -/
theorem sameResponse_of_team {arrival : Arrival} (hnamed : arrival.named? = some teamId)
    (hfree : s.store.staged = none) (hsame : s.store.committed.SameTeam tables teamId)
    (batches : Nat) : SameResponse settings arrival s tables batches := by
  obtain ⟨route, hroute, hteam⟩ := Option.bind_eq_some_iff.1 hnamed
  have hpaired : Scene.Paired arrival.collaborators (Layers.limit settings arrival.request) s tables
      batches fun _ _ => True := by
    refine Scene.paired_course (course_limit arrival.request) (fun _ _ => trivial)
      fun user operation hasks => ?_
    obtain ⟨other, hother, hleads⟩ := hasks.leads
    rw [hroute, Option.some.injEq] at hother
    subst hother
    let visit : Visit := ⟨settings, user, operation, arrival.collaborators⟩
    have hoperation : visit.operation.named? = some teamId := hleads.named? hteam
    exact (Scene.twins_service_of_team hfree hoperation hsame).mono fun _ _ _ _ => trivial
  obtain ⟨response, s', tables', batches', hrun, hrun', -⟩ := hpaired
  exact ⟨response, s', _, hrun, hrun'⟩

end Http

/-- The tables without an event. -/
def Tables.without (tables : Tables) (id : EventId) : Tables where
  events := tables.events.erase id
  attendance := tables.attendance.filter fun key _ => key.eventId ≠ id

theorem Tables.sameTeam_without {tables : Tables} {id : EventId} {event : Event} {teamId : TeamId}
    (hevent : tables.events[id]? = some event) (hteam : event.teamId ≠ teamId) :
    tables.SameTeam (tables.without id) teamId := by
  intro other stored hstored
  change _ ↔ (tables.events.erase id)[other]? = some stored
  rw [Std.ExtTreeMap.getElem?_erase]
  split
  · next hid =>
    -- the event that is missing is of another team
    obtain rfl := Std.LawfulEqOrd.eq_of_compare hid
    rw [hevent]
    constructor
    · rintro ⟨⟩
      exact absurd hstored hteam
    · nofun
  · rfl

/-- Whatever a user asks for, the responses are the same with two stores that agree on the teams in
which the user has a known role, and on which events there are in which other teams.  Afterwards the
stores still agree, and other teams have been left alone.  This takes it that no new event gets the
identifier of an event of another team.  The response to a request that names a team depends on the
events of the team only; an event of another team might as well not exist. -/
theorem Http.noninterference {settings : RuntimeSettings} {requester : UserId}
    {arrivals : List Arrival} {s : Scene} {tables : Tables}
    (h : Comparable settings requester arrivals s tables)
    (hunused : ∀ id ∈ (s.store.ids.drawMany arrivals.length : List EventId),
      ¬ s.store.committed.Foreign (Sees settings requester arrivals) id) (batches : Nat) :
    Separated settings requester arrivals s tables batches ∧
      (∀ (arrival : Arrival) (teamId : TeamId), arrival.named? = some teamId →
        (∀ (s : Scene) (tables : Tables) (batches : Nat), s.store.staged = none →
          s.store.committed.SameTeam tables teamId →
          SameResponse settings arrival s tables batches) ∧
        (∀ (s : Scene) (id : EventId) (event : Event), s.store.staged = none →
          s.store.committed.events[id]? = some event → event.teamId ≠ teamId →
          SameResponse settings arrival s (s.store.committed.without id) s.store.batches)) := by
  constructor
  · have hapart : s.Apart (Sees settings requester arrivals) tables arrivals.length :=
      ⟨h.free, h.stored.tidy, h.stored'.tidy, h.agree, hunused⟩
    exact hapart.respondAll h.authentic
      (fun arrival harrival teamId hknows => ⟨arrival, harrival, hknows⟩) batches
  · intro arrival teamId hnamed
    constructor
    · intro s tables batches hfree hsame
      exact sameResponse_of_team hnamed hfree hsame batches
    · intro s id event hfree hevent hteam
      exact sameResponse_of_team hnamed hfree (Tables.sameTeam_without hevent hteam) _

/-! ## Another team -/

namespace Sample

def rivals : TeamId :=
  ⟨5⟩

def derbyId : EventId :=
  .random 7

/-- An event of another team. -/
def derby (title : String) : Event :=
  { training with id := derbyId, teamId := rivals, title }

/-- A store in which there is nothing else. -/
def rivalStore (title : String) (given : List (BitVec 128)) : Store :=
  StoreCall.after Store.serve
    [.ask .begin, .ask (.insertEvent (derby title).toNewEvent), .ask .commit]
    { ids := { given := 7 :: given } }

theorem events_rivalStore (title : String) (given : List (BitVec 128)) (id : EventId) :
    (rivalStore title given).committed.events[id]? =
      if derbyId = id then some (derby title) else none := by
  change ((Tables.overlay {} (Tables.putEvent {} (derby title))).events)[id]? = _
  rw [Tables.getElem?_events_overlay, Tables.getElem?_events_putEvent,
    Std.ExtTreeMap.getElem?_empty, Option.or_none]
  rfl

/-- Someone who does not see the other team cannot tell its event. -/
theorem agree_rivalStore {seen : TeamId → Prop} (hunseen : ¬ seen rivals) (title title' : String)
    (given given' : List (BitVec 128)) :
    (rivalStore title given).committed.Agree seen (rivalStore title' given').committed := by
  refine ⟨fun id => ?_, fun teamId hseen id event hteam => ?_, fun _ _ _ => rfl⟩
  · rw [events_rivalStore, events_rivalStore]
    by_cases hid : derbyId = id
    · rw [if_pos hid, if_pos hid]
      rfl
    · rw [if_neg hid, if_neg hid]
  · rw [events_rivalStore, events_rivalStore]
    have hrival (title : String) : derby title ≠ event := by
      rintro rfl
      rw [← hteam] at hseen
      exact hunseen hseen
    by_cases hid : derbyId = id
    · rw [if_pos hid, if_pos hid, Option.some.injEq, Option.some.injEq]
      exact iff_of_false (hrival title) (hrival title')
    · rw [if_neg hid, if_neg hid]

/-- The coach asks for a new event; its fields are listed in order. -/
def order : Http.Arrival where
  request :=
    { method := "POST"
      path := "/v1/events"
      headers := [.ofText Http.requesterField "00000000-0000-0000-0000-000000000002",
        .ofText "Content-Type" "application/json"]
      body := Text.bytesOf ("[\"00000000-0000-0000-0000-000000000001\",\"T\",\"t\",\"\"," ++
        "\"1-1-1T0:0:0Z\",\"1-1-1T0:0:1Z\"]") }
  collaborators := rehearsal.collaborators

theorem not_sees_rivals : ¬ Http.Sees settings coach [order] rivals := by
  rintro ⟨arrival, harrival, membership, role, hgives, hrole, -⟩
  obtain rfl := List.mem_singleton.1 harrival
  have hempty : (order.collaborators.membership rivals [coach]).Gives settings.deadline ∅ :=
    ⟨by decide, rfl⟩
  rw [hgives.unique hempty, Std.ExtTreeMap.getElem?_empty] at hrole
  cases hrole

theorem comparable_order (title title' : String) (given : List (BitVec 128)) :
    Http.Comparable settings coach [order] { store := rivalStore title given }
      (rivalStore title' given).committed where
  free := rfl
  stored := ⟨_, _, rfl⟩
  stored' := ⟨_, _, rfl⟩
  authentic arrival harrival requester hrequester := by
    obtain rfl := List.mem_singleton.1 harrival
    have hcoach : Http.authenticate settings order.request.headers = .ok coach := by decide +kernel
    rw [hcoach] at hrequester
    cases hrequester
    rfl
  agree := agree_rivalStore not_sees_rivals title title' given given

end Sample

/-- What the other team calls its event does not matter to the coach. -/
theorem Http.noninterference_sample :
    Separated Sample.settings Sample.coach [Sample.order] { store := Sample.rivalStore "Derby" [] }
      (Sample.rivalStore "Cup" []).committed 0 := by
  refine (noninterference (Sample.comparable_order "Derby" "Cup" []) ?_ 0).1
  rintro id hid ⟨event, hevent, -⟩
  obtain rfl := List.mem_singleton.1 hid
  rw [Sample.events_rivalStore, if_neg (by decide)] at hevent
  cases hevent

/-- When the new event gets the identifier of an event of another team, that event is lost. -/
theorem Http.not_separated_of_used_id :
    Comparable Sample.settings Sample.coach [Sample.order]
        { store := Sample.rivalStore "Derby" [7] } (Sample.rivalStore "Derby" [7]).committed ∧
      ¬ Separated Sample.settings Sample.coach [Sample.order]
        { store := Sample.rivalStore "Derby" [7] } (Sample.rivalStore "Derby" [7]).committed 0 := by
  refine ⟨Sample.comparable_order "Derby" "Derby" [7], ?_⟩
  rintro ⟨responses, s', tables', batches', hrun, -, hseparate⟩
  have hderby : (Sample.rivalStore "Derby" [7]).committed.events[Sample.derbyId]? =
      some (Sample.derby "Derby") := by
    rw [Sample.events_rivalStore, if_pos rfl]
  have hlost : (((respondAll Sample.settings [Sample.order]).run
      { store := Sample.rivalStore "Derby" [7] }).map fun outcome =>
        (outcome.2.store.committed.events[Sample.derbyId]?).map (·.teamId)) =
      some (some Sample.team) := by
    decide +kernel
  have hkept := (hseparate.spares.events _ Sample.not_sees_rivals).eq_of_team hderby rfl
  rw [hrun, Option.map_some, hkept] at hlost
  cases hlost

end TeamCalendar
