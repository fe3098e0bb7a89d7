import TeamCalendar.Http.Layers
import TeamCalendar.Proofs.Run

/-!
# What a request asks for

A request asks for one operation at most, and only when all has been checked that can be checked
without the service.  The response says what the reply to the operation says, or why there is none.

* `Http.Request.AsksFor` says which operations a request may ask for, and in whose name.
* `Http.Course` says how a response comes about, and `Http.course_limit` that every response comes
  about so.
-/

namespace TeamCalendar.Http

/-- The operations that are asked for at a route. -/
inductive Route.Leads : Route → Operation → Prop where
  | create (new : NewEvent) : Leads .events (.create new)
  | read {segment : String} {id : EventId} (hid : pathId segment = .ok id) :
    Leads (.event segment) (.read id)
  | respond {segment : String} {id : EventId} (hid : pathId segment = .ok id) (status : Status) :
    Leads (.attendance segment) (.respond id status)
  | list {segment : String} {teamId : TeamId} (hteam : pathId segment = .ok teamId) :
    Leads (.teamEvents segment) (.list teamId)
  | update {teamSegment segment : String} {teamId : TeamId} {id : EventId}
    (hteam : pathId teamSegment = .ok teamId) (hid : pathId segment = .ok id) (patch : Patch) :
    Leads (.teamEvent teamSegment segment) (.update teamId id patch)

/-- A request may ask for an operation in the name of a user. -/
structure Request.AsksFor (settings : RuntimeSettings) (request : Request) (requester : UserId)
    (operation : Operation) : Prop where
  authentic : authenticate settings request.headers = .ok requester
  leads : ∃ route, Route.ofPath? request.path = some route ∧ route.Leads operation

/-- How a response comes about: it is settled at once, it shows the counters, it depends on whether
the storage can be reached, or it is written from the reply to an operation. -/
inductive Course (settings : RuntimeSettings) (c : Collaborators) (asks : UserId → Operation → Prop)
    {α : Type} : Dialogue Surroundings α → Prop where
  | settled (response : α) : Course settings c asks (.done response)
  | counted (write : Tally → α) :
    Course settings c asks (.ask .tally fun tally => .done (write tally))
  | reached (write : Timed (Except String Unit) → α) :
    Course settings c asks (.ask (.storage .ping) fun answer => .done (write answer))
  | served {requester : UserId} {operation : Operation} (hasks : asks requester operation)
    (write : Except Refusal Reply → α) :
    Course settings c asks
      ((ExceptT.run (Visit.service ⟨settings, requester, operation, c⟩)).bind
        fun reply => .done (write reply))

section Courses

variable {settings : RuntimeSettings} {c : Collaborators} {asks asks' : UserId → Operation → Prop}
  {α β : Type}

theorem Course.mono {dialogue : Dialogue Surroundings α} (h : Course settings c asks dialogue)
    (hasks : ∀ requester operation, asks requester operation → asks' requester operation) :
    Course settings c asks' dialogue := by
  cases h with
  | settled response => exact .settled response
  | counted write => exact .counted write
  | reached write => exact .reached write
  | served h write => exact .served (hasks _ _ h) write

/-- Something is made of a response. -/
theorem Course.map {dialogue : Dialogue Surroundings α} (h : Course settings c asks dialogue)
    (f : α → β) : Course settings c asks (dialogue.bind fun response => .done (f response)) := by
  cases h with
  | settled response => exact .settled (f response)
  | counted write => exact .counted fun tally => f (write tally)
  | reached write => exact .reached fun answer => f (write answer)
  | served hasks write =>
    rw [Dialogue.bind_assoc]
    exact .served hasks fun reply => f (write reply)

/-- What fails a check is rejected at once. -/
theorem Course.check {result : Except Rejection β} {next : β → Handler Response}
    (h : ∀ value, result = .ok value → Course settings c asks (next value).respond) :
    Course settings c asks (Handler.check result >>= next).respond := by
  cases result with
  | error rejection => exact .settled rejection.response
  | ok value => exact h value rfl

/-- What the service says is written down. -/
theorem respond_serve (service : Service β) (write : β → Response) :
    Handler.respond (do
      let value ← Handler.serve service
      pure (write value)) =
      (ExceptT.run service).bind fun result =>
        .done (match result with
          | .ok value => write value
          | .error refusal => (Rejection.ofRefusal refusal).response) := by
  unfold Handler.serve Handler.respond
  change Dialogue.bind (Dialogue.bind (Dialogue.bind _ _) _) _ = _
  rw [Dialogue.bind_assoc, Dialogue.bind_assoc]
  congr
  funext result
  cases result with
  | ok value => rfl
  | error refusal => rfl

/-- An operation is asked for, and its reply is written down. -/
theorem Course.serve {requester : UserId} {operation : Operation}
    (hasks : asks requester operation) {f : β → Reply} (hf : f.Injective) {service : Service β}
    (hservice : Visit.service ⟨settings, requester, operation, c⟩ = f <$> service)
    (write : β → Response) :
    Course settings c asks (Handler.respond (do
      let value ← Handler.serve service
      pure (write value))) := by
  -- what is written of a reply that no such service gives does not matter
  let written (reply : Except Refusal Reply) : Response :=
    match reply with
    | .ok reply => Function.extend f write (fun _ => { status := 500 }) reply
    | .error refusal => (Rejection.ofRefusal refusal).response
  have hwritten : (ExceptT.run service).bind (fun result =>
      .done (match result with
        | .ok value => write value
        | .error refusal => (Rejection.ofRefusal refusal).response)) =
      (ExceptT.run (f <$> service)).bind fun reply => .done (written reply) := by
    change _ = Dialogue.bind (Dialogue.bind _ _) _
    rw [Dialogue.bind_assoc]
    congr
    funext result
    cases result with
    | ok value => exact congrArg Dialogue.done (hf.extend_apply write _ value).symm
    | error refusal => rfl
  rw [respond_serve, hwritten, ← hservice]
  exact .served hasks written

/-! ## Every request -/

theorem course_showReadiness : Course settings c asks (showReadiness settings) := by
  let shown (answer : Timed (Except String Unit)) : Response :=
    if answer.delay ≤ 1000 * max settings.requestTimeoutSeconds 1 ∧ answer.value.isOk then
      { status := 200 }
    else
      { status := 503 }
  have hshown : showReadiness settings =
      .ask (.storage .ping) fun answer => .done (shown answer) := by
    refine congrArg _ (funext fun answer => ?_)
    exact (apply_ite Dialogue.done _ _ _).symm
  rw [hshown]
  exact .reached shown

/-- The operation that is asked for at a route, in the name of whoever is authenticated. -/
theorem course_answerRoute (limit : Nat) (request : Request) (route : Route) :
    Course settings c
      (fun requester operation => authenticate settings request.headers = .ok requester ∧
        route.Leads operation)
      (answerRoute settings limit request route) := by
  cases route with
  | events =>
    exact .check fun requester hrequester => .check fun new _ =>
      .serve ⟨hrequester, .create new⟩ (fun _ _ => Reply.created.inj) rfl _
  | event segment =>
    exact .check fun requester hrequester => .check fun id hid =>
      .serve ⟨hrequester, .read hid⟩ (fun _ _ => Reply.details.inj) rfl _
  | attendance segment =>
    exact .check fun requester hrequester => .check fun id hid => .check fun status _ =>
      .serve ⟨hrequester, .respond hid status⟩ (fun _ _ => Reply.responded.inj) rfl _
  | teamEvents segment =>
    exact .check fun requester hrequester => .check fun teamId hteam =>
      .serve ⟨hrequester, .list hteam⟩ (fun _ _ => Reply.events.inj) rfl _
  | teamEvent teamSegment segment =>
    exact .check fun requester hrequester => .check fun teamId hteam => .check fun id hid =>
      .check fun patch _ =>
        .serve ⟨hrequester, .update hteam hid patch⟩ (fun _ _ => Reply.updated.inj) rfl _
  | live => exact .settled _
  | ready => exact course_showReadiness
  | metrics =>
    change Course settings c _ (showMetrics settings request)
    rw [showMetrics]
    split
    · exact .counted _
    · exact .settled _

theorem course_answer (limit : Nat) (request : Request) :
    Course settings c (request.AsksFor settings) (answer settings limit request) := by
  rw [answer]
  cases hroute : Route.ofPath? request.path with
  | none => exact .settled _
  | some route =>
    dsimp only
    split
    · have hcourse : Course settings c (request.AsksFor settings)
          (answerRoute settings limit request route) :=
        (course_answerRoute limit request route).mono fun _ _ h => ⟨h.1, route, hroute, h.2⟩
      split
      · exact hcourse.map fun response => { response with body := "" }
      · exact hcourse.map id
    · exact .settled _

/-- Every response comes about in one of the ways there are. -/
theorem course_limit (request : Request) :
    Course settings c (request.AsksFor settings) (Layers.limit settings request) := by
  rw [Layers.limit]
  split
  · exact .settled _
  · rw [Layers.share]
    split
    · exact .settled _
    · exact (course_answer settings.maxBodyBytes request).map fun response =>
        LayeredResponse.mk response Layers.sharingMarks

end Courses

end TeamCalendar.Http
