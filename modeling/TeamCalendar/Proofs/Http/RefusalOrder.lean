import TeamCalendar.Proofs.Http.BodyLimit
import TeamCalendar.Proofs.Text.Utf8

/-!
# The order of refusals

A request about events is refused for the first of three reasons that applies: nobody is named who
may ask, a segment of the path is no identifier, or the body cannot be read.  Such a request leaves
everything as it is.  Any other is carried out once, and the response tells how that ended.

* `Headers.Names`, `IsIdentifier`, `Request.Carries` and `Route.Demands` say, without the handlers,
  who is named, what an identifier is, what a body carries and what a request comes to.
* `Tells` says what the requester is told of the reply to an operation.
* `RefusedInOrder` puts the order together, and `refusedInOrder` proves it for every route of
  events.
-/

namespace TeamCalendar.Http

/-! ## Who asks -/

/-- The header names no user: the field is missing, or its value is no plain text, no identifier or
the identifier that names nothing. -/
inductive Headers.Nameless (headers : Headers) : Prop where
  | missing (hfield : headers.first? requesterField = none)
  | garbled {value : List UInt8} (hfield : headers.first? requesterField = some value)
    (hgarbled : value.all isTextByte = false)
  | illegible {s : String} (hfield : headers.first? requesterField = some (Text.bytesOf s))
    (hplain : (Text.bytesOf s).all isTextByte = true)
    (hid : (Id.parseTrimmed? s : Option UserId) = none)
  | nobody {s : String} (hfield : headers.first? requesterField = some (Text.bytesOf s))
    (hplain : (Text.bytesOf s).all isTextByte = true)
    (hid : (Id.parseTrimmed? s : Option UserId) = some Id.nil)

/-- The first field for it names a user. -/
def Headers.Names (headers : Headers) (requester : UserId) : Prop :=
  ∃ s, headers.first? requesterField = some (Text.bytesOf s) ∧
    (Text.bytesOf s).all isTextByte = true ∧ Id.parseTrimmed? s = some requester ∧
    requester ≠ Id.nil

/-- The token is presented, and a user is named. -/
structure Request.Identifies (settings : RuntimeSettings) (request : Request) (requester : UserId) :
    Prop where
  authorized : isAuthorized settings request.headers = true
  names : request.headers.Names requester

section Identity

variable {headers : Headers} {settings : RuntimeSettings} {request : Request} {requester : UserId}

theorem Headers.nameless_or_names (headers : Headers) :
    headers.Nameless ∨ ∃ requester, headers.Names requester := by
  cases hfield : headers.first? requesterField with
  | none => exact Or.inl (.missing hfield)
  | some value =>
    cases hplain : value.all isTextByte with
    | false => exact Or.inl (.garbled hfield hplain)
    | true =>
      have hsmall : ∀ b ∈ value, b < 128 := by
        intro b hb
        have htext := List.all_eq_true.1 hplain b hb
        simp only [isTextByte, Bool.or_eq_true, Bool.and_eq_true, beq_iff_eq, decide_eq_true_eq,
          ← UInt8.toNat_inj, UInt8.lt_iff_toNat_lt, UInt8.toNat_ofNat] at htext ⊢
        omega
      obtain ⟨s, rfl⟩ := Text.exists_bytesOf_eq hsmall
      cases hid : (Id.parseTrimmed? s : Option UserId) with
      | none => exact Or.inl (.illegible hfield hplain hid)
      | some requester =>
        by_cases hnil : requester = Id.nil
        · subst hnil
          exact Or.inl (.nobody hfield hplain hid)
        · exact Or.inr ⟨requester, s, hfield, hplain, hid, hnil⟩

theorem Headers.text?_of_plain {s name : String}
    (hfield : headers.first? name = some (Text.bytesOf s))
    (hplain : (Text.bytesOf s).all isTextByte = true) : headers.text? name = some s := by
  rw [text?, hfield, Option.bind_some, if_pos hplain, Text.ofBytes?_bytesOf]

theorem Headers.Nameless.requester?_eq (h : headers.Nameless) : requester? headers = none := by
  cases h with
  | missing hfield => rw [requester?, text?, hfield]; rfl
  | garbled hfield hgarbled => rw [requester?, text?, hfield, Option.bind_some, hgarbled]; rfl
  | illegible hfield hplain hid =>
    rw [requester?, text?_of_plain hfield hplain, Option.bind_some, hid]
    rfl
  | nobody hfield hplain hid =>
    rw [requester?, text?_of_plain hfield hplain, Option.bind_some, hid]
    rfl

theorem Headers.Names.requester?_eq (h : headers.Names requester) :
    requester? headers = some requester := by
  obtain ⟨s, hfield, hplain, hid, hnil⟩ := h
  have hother : (!requester.isNil) = true := by
    rw [Id.isNil, Bool.not_eq_true', beq_eq_false_iff_ne]
    intro hbits
    apply hnil
    cases requester
    exact congrArg Id.mk hbits
  rw [requester?, text?_of_plain hfield hplain, Option.bind_some, hid, Option.filter_some,
    if_pos hother]

/-- Whoever fails to present the token or to name a user is refused alike. -/
theorem authenticate_eq_error
    (h : isAuthorized settings request.headers = false ∨ request.headers.Nameless) :
    authenticate settings request.headers = .error .unauthorized := by
  rw [authenticate]
  rcases h with hauthorized | hnameless
  · rw [hauthorized]
    rfl
  · rw [hnameless.requester?_eq]
    split <;> rfl

theorem Request.Identifies.authenticate_eq (h : request.Identifies settings requester) :
    authenticate settings request.headers = .ok requester := by
  rw [authenticate, if_pos h.authorized, h.names.requester?_eq]

theorem Request.exists_identifies (settings : RuntimeSettings) (request : Request) :
    (isAuthorized settings request.headers = false ∨ request.headers.Nameless) ∨
      ∃ requester, request.Identifies settings requester := by
  cases hauthorized : isAuthorized settings request.headers with
  | false => exact Or.inl (Or.inl rfl)
  | true =>
    rcases request.headers.nameless_or_names with hnameless | ⟨requester, hnames⟩
    · exact Or.inl (Or.inr hnameless)
    · exact Or.inr ⟨requester, hauthorized, hnames⟩

end Identity

/-! ## What is asked for -/

/-- A segment of a path stands for an identifier once its escapes are undone. -/
def IsIdentifier {kind : IdKind} (segment : String) (id : Id kind) : Prop :=
  ∃ s, Text.percentDecode? segment = some s ∧ Id.parse? s = some id

/-- The segments of a route of events, with what each has to name. -/
def Route.segments? : Route → Option (List (IdKind × String))
  | .events => some []
  | .event id | .attendance id => some [(.event, id)]
  | .teamEvents teamId => some [(.team, teamId)]
  | .teamEvent teamId id => some [(.team, teamId), (.event, id)]
  | .live | .ready | .metrics => none

/-- The segment does not stand for an identifier. -/
def NoIdentifier (segment : IdKind × String) : Prop :=
  ∀ id : Id segment.1, ¬ IsIdentifier segment.2 id

/-- The body of a request is JSON, short enough to be read, and starts with the form of a value. -/
structure Request.Carries {α : Type} (settings : RuntimeSettings) (request : Request)
    (codec : Json.Codec α) (value : α) : Prop where
  isJson : Headers.isJson request.headers = true
  length_le : request.body.length ≤ min settings.maxBodyBytes readLimit
  decodes : codec.decodeFront request.body = .ok value

/-- The body cannot be read as what the route takes. -/
inductive Route.Unreadable (settings : RuntimeSettings) (request : Request) : Route → Prop where
  | create (h : ∀ new, ¬ request.Carries settings NewEvent.requestCodec new) :
    Unreadable settings request .events
  | respond {segment : String}
    (h : ∀ status, ¬ request.Carries settings Status.requestCodec status) :
    Unreadable settings request (.attendance segment)
  | update {teamSegment segment : String}
    (h : ∀ patch, ¬ request.Carries settings Patch.codec patch) :
    Unreadable settings request (.teamEvent teamSegment segment)

/-- The operation that a request to a route comes to, if nothing stands against it. -/
inductive Route.Demands (settings : RuntimeSettings) (request : Request) : Route → Operation → Prop
    where
  | create {new : NewEvent} (hbody : request.Carries settings NewEvent.requestCodec new) :
    Demands settings request .events (.create new)
  | read {segment : String} {id : EventId} (hid : IsIdentifier segment id) :
    Demands settings request (.event segment) (.read id)
  | respond {segment : String} {id : EventId} {status : Status} (hid : IsIdentifier segment id)
    (hbody : request.Carries settings Status.requestCodec status) :
    Demands settings request (.attendance segment) (.respond id status)
  | list {segment : String} {teamId : TeamId} (hteam : IsIdentifier segment teamId) :
    Demands settings request (.teamEvents segment) (.list teamId)
  | update {teamSegment segment : String} {teamId : TeamId} {id : EventId} {patch : Patch}
    (hteam : IsIdentifier teamSegment teamId) (hid : IsIdentifier segment id)
    (hbody : request.Carries settings Patch.codec patch) :
    Demands settings request (.teamEvent teamSegment segment) (.update teamId id patch)

section Reading

variable {kind : IdKind} {segment : String} {id : Id kind} {α : Type} {settings : RuntimeSettings}
  {request : Request} {codec : Json.Codec α} {value : α}

theorem isIdentifier_iff : IsIdentifier segment id ↔ pathId segment = .ok id := by
  rw [IsIdentifier, ← Option.bind_eq_some_iff, pathId]
  cases (Text.percentDecode? segment).bind Id.parse? with
  | none => exact ⟨nofun, nofun⟩
  | some other => simp

theorem NoIdentifier.pathId_eq (h : NoIdentifier (kind, segment)) :
    (pathId segment : Except Rejection (Id kind)) = .error (.badRequest "Invalid URL") := by
  cases hid : (pathId segment : Except Rejection (Id kind)) with
  | ok id => exact absurd (isIdentifier_iff.2 hid) (h id)
  | error rejection =>
    rw [pathId] at hid
    split at hid
    · cases hid
    · exact hid.symm

theorem exists_isIdentifier (kind : IdKind) (segment : String) :
    NoIdentifier (kind, segment) ∨ ∃ id : Id kind, IsIdentifier segment id := by
  by_cases h : ∃ id : Id kind, IsIdentifier segment id
  · exact Or.inr h
  · exact Or.inl (not_exists.1 h)

theorem Request.Carries.readBody_eq (h : request.Carries settings codec value) :
    readBody codec settings.maxBodyBytes request = .ok value := by
  rw [Http.readBody_eq _ _ h.isJson, if_neg (Nat.not_lt.2 h.length_le), readWhole, h.decodes]
  rfl

/-- A body that carries nothing is rejected, and the reason is told. -/
theorem readBody_eq_error (h : ∀ value, ¬ request.Carries settings codec value) :
    ∃ reason, readBody codec settings.maxBodyBytes request = .error (.badRequest reason) := by
  rw [readBody]
  split
  · exact ⟨_, rfl⟩
  · next hjson =>
    split
    · exact ⟨_, rfl⟩
    · next hlength =>
      cases hdecoded : codec.decodeFront request.body with
      | error fault => exact ⟨_, rfl⟩
      | ok value =>
        have hcarries : request.Carries settings codec value :=
          ⟨by simpa using hjson, Nat.not_lt.1 hlength, hdecoded⟩
        exact absurd hcarries (h value)

theorem Request.exists_carries (settings : RuntimeSettings) (request : Request)
    (codec : Json.Codec α) :
    (∀ value, ¬ request.Carries settings codec value) ∨
      ∃ value, request.Carries settings codec value := by
  by_cases h : ∃ value, request.Carries settings codec value
  · exact Or.inr h
  · exact Or.inl (not_exists.1 h)

end Reading

/-- A request to a route of events has a segment that is no identifier, or a body that cannot be
read, or it comes to an operation. -/
theorem Route.exists_demands (settings : RuntimeSettings) (request : Request) {route : Route}
    {segments : List (IdKind × String)} (hroute : route.segments? = some segments) :
    (∃ segment ∈ segments, NoIdentifier segment) ∨
    (∀ segment ∈ segments, ¬ NoIdentifier segment) ∧
      (route.Unreadable settings request ∨
        ∃ operation, route.Demands settings request operation) := by
  by_cases hsegments : ∃ segment ∈ segments, NoIdentifier segment
  · exact Or.inl hsegments
  have hall : ∀ segment ∈ segments, ¬ NoIdentifier segment := fun segment hsegment hno =>
    hsegments ⟨segment, hsegment, hno⟩
  have hid {kind : IdKind} {segment : String} (hsegment : (kind, segment) ∈ segments) :
      ∃ id : Id kind, IsIdentifier segment id :=
    (exists_isIdentifier kind segment).resolve_left (hall _ hsegment)
  refine Or.inr ⟨hall, ?_⟩
  cases route with
  | events =>
    rcases request.exists_carries settings NewEvent.requestCodec with hno | ⟨new, hbody⟩
    · exact Or.inl (.create hno)
    · exact Or.inr ⟨_, .create hbody⟩
  | event segment =>
    cases hroute
    obtain ⟨id, hid⟩ := hid (List.mem_singleton_self _)
    exact Or.inr ⟨_, .read hid⟩
  | attendance segment =>
    cases hroute
    obtain ⟨id, hid⟩ := hid (List.mem_singleton_self _)
    rcases request.exists_carries settings Status.requestCodec with hno | ⟨status, hbody⟩
    · exact Or.inl (.respond hno)
    · exact Or.inr ⟨_, .respond hid hbody⟩
  | teamEvents segment =>
    cases hroute
    obtain ⟨teamId, hteam⟩ := hid (List.mem_singleton_self _)
    exact Or.inr ⟨_, .list hteam⟩
  | teamEvent teamSegment segment =>
    cases hroute
    obtain ⟨teamId, hteam⟩ := hid List.mem_cons_self
    obtain ⟨id, hid⟩ := hid (List.mem_cons_of_mem _ (List.mem_singleton_self _))
    rcases request.exists_carries settings Patch.codec with hno | ⟨patch, hbody⟩
    · exact Or.inl (.update hno)
    · exact Or.inr ⟨_, .update hteam hid hbody⟩
  | live | ready | metrics => cases hroute

/-! ## What is told -/

/-- What the requester is told of the reply to an operation. -/
inductive Tells (requester : UserId) : Operation → Except Refusal Reply → Response → Prop where
  | created (new : NewEvent) (created : CreatedEvent) :
    Tells requester (.create new) (.ok (.created created)) (.json 201 (.object
      (created.event.members ++ [("attendance_rows", .number created.attendanceRows)])))
  | updated (teamId : TeamId) (id : EventId) (patch : Patch) (event : Event) :
    Tells requester (.update teamId id patch) (.ok (.updated event))
      (.json 200 (Event.codec.write event))
  | responded (id : EventId) (status : Status) (event : Event) :
    Tells requester (.respond id status) (.ok (.responded event)) (.json 200 (.object
      [("event_id", Id.codec.write id), ("user_id", Id.codec.write requester),
       ("status", Status.codec.write status)]))
  | read (id : EventId) (details : EventDetails) :
    Tells requester (.read id) (.ok (.details details))
      (.json 200 (EventDetails.codec.write details))
  | listed (teamId : TeamId) (events : List Event) :
    Tells requester (.list teamId) (.ok (.events events)) (.json 200 (.object
      [("team_id", Id.codec.write teamId), ("events", (Json.Codec.list Event.codec).write events)]))
  | refused (operation : Operation) (refusal : Refusal) :
    Tells requester operation (.error refusal) (Rejection.ofRefusal refusal).response

theorem Tells.unique {requester : UserId} {operation : Operation} {reply : Except Refusal Reply}
    {response other : Response} (h : Tells requester operation reply response)
    (hother : Tells requester operation reply other) : response = other := by
  cases h <;> cases hother <;> rfl

/-- What is sent of a response: no body if only the header was asked for, and always the marks that
let scripts see it. -/
def Request.sent (request : Request) (response : Response) : LayeredResponse where
  response := if request.method = "HEAD" then { response with body := "" } else response
  added := Layers.sharingMarks

end TeamCalendar.Http

namespace TeamCalendar.Scene

variable {α β : Type} {c : Collaborators} {s : Scene}

/-- What the handler of a route does with a request in a scene; none if it would wait for ever. -/
def handle (s : Scene) (c : Collaborators) (settings : RuntimeSettings) (request : Http.Request)
    (route : Http.Route) : Option (Http.Response × Scene) :=
  ((Http.answerRoute settings settings.maxBodyBytes request route).interpret (answer c)).run s

theorem run_bind_done (dialogue : Dialogue Surroundings α) (f : α → β) (s : Scene) :
    ((dialogue.bind fun value => .done (f value)).interpret (answer c)).run s =
      ((dialogue.interpret (answer c)).run s).map fun (outcome : α × Scene) =>
        (f outcome.1, outcome.2) := by
  have hinterpret := Dialogue.interpret_bind (I := Surroundings) (answer c) dialogue
    fun value => .done (f value)
  refine (congrArg (StateT.run · s) hinterpret).trans ?_
  change Option.bind ((dialogue.interpret (answer c)).run s) _ = _
  cases (dialogue.interpret (answer c)).run s <;> rfl

/-- What is settled at once leaves the scene as it is. -/
theorem handle_of_settled {settings : RuntimeSettings} {request : Http.Request}
    {route : Http.Route} {response : Http.Response}
    (h : Http.answerRoute settings settings.maxBodyBytes request route = .done response) :
    s.handle c settings request route = some (response, s) := by
  rw [handle, h]
  rfl

/-- A handler that asks the service for an operation tells of the outcome. -/
theorem handle_of_serve {settings : RuntimeSettings} {request : Http.Request}
    {route : Http.Route} {requester : UserId} {operation : Operation} {service : Service α}
    {f : α → Reply} {write : α → Http.Response}
    (hroute : Http.answerRoute settings settings.maxBodyBytes request route =
      Http.Handler.respond (do
        let value ← Http.Handler.serve service
        pure (write value)))
    (hservice : Visit.service ⟨settings, requester, operation, c⟩ = f <$> service)
    (htells : ∀ value, Http.Tells requester operation (.ok (f value)) (write value))
    (outcome : Http.Response × Scene) :
    s.handle c settings request route = some outcome ↔
      ∃ reply, s.carryOut ⟨settings, requester, operation, c⟩ = some (reply, outcome.2) ∧
        Http.Tells requester operation reply outcome.1 := by
  rw [handle, hroute, Http.respond_serve, run_bind_done, carryOut, hservice, run_map]
  change (run c service s).map _ = _ ↔ _
  cases run c service s with
  | none =>
    constructor
    · intro h
      cases h
    · rintro ⟨_, h, _⟩
      cases h
  | some ended =>
    obtain ⟨result, s'⟩ := ended
    obtain ⟨response, after⟩ := outcome
    cases result with
    | ok value =>
      constructor
      · intro h
        cases h
        exact ⟨_, rfl, htells value⟩
      · rintro ⟨reply, h, htold⟩
        cases h
        have hresponse : response = write value := htold.unique (htells value)
        rw [hresponse]
        rfl
    | error refusal =>
      constructor
      · intro h
        cases h
        exact ⟨_, rfl, .refused operation refusal⟩
      · rintro ⟨reply, h, htold⟩
        cases h
        have hresponse : response = (Http.Rejection.ofRefusal refusal).response :=
          htold.unique (.refused operation refusal)
        rw [hresponse]
        rfl

end TeamCalendar.Scene

namespace TeamCalendar.Http

variable {settings : RuntimeSettings} {request : Request} {route : Route} {requester : UserId}

/-! ## The order -/

theorem check_bind_error {α β : Type} {result : Except Rejection α} {rejection : Rejection}
    (h : result = .error rejection) (next : α → Handler β) :
    Handler.check result >>= next = throw rejection := by
  rw [h]
  rfl

theorem answerRoute_of_unauthorized {segments : List (IdKind × String)}
    (hroute : route.segments? = some segments)
    (h : authenticate settings request.headers = .error .unauthorized) (limit : Nat) :
    answerRoute settings limit request route = .done Rejection.unauthorized.response := by
  cases route with
  | events => rw [answerRoute, createEvent, check_bind_error h]; rfl
  | event segment => rw [answerRoute, showEvent, check_bind_error h]; rfl
  | attendance segment => rw [answerRoute, respondToEvent, check_bind_error h]; rfl
  | teamEvents segment => rw [answerRoute, listEvents, check_bind_error h]; rfl
  | teamEvent teamSegment segment => rw [answerRoute, updateEvent, check_bind_error h]; rfl
  | live | ready | metrics => cases hroute

theorem answerRoute_of_noIdentifier {segments : List (IdKind × String)}
    (hroute : route.segments? = some segments)
    (hrequester : authenticate settings request.headers = .ok requester)
    (h : ∃ segment ∈ segments, NoIdentifier segment) (limit : Nat) :
    answerRoute settings limit request route =
      .done (Rejection.badRequest "Invalid URL").response := by
  obtain ⟨⟨kind, text⟩, hmem, hno⟩ := h
  have herror := hno.pathId_eq
  cases route with
  | events => cases hroute; cases hmem
  | event segment =>
    cases hroute
    cases List.mem_singleton.1 hmem
    rw [answerRoute, showEvent, check_bind hrequester, check_bind_error herror]
    rfl
  | attendance segment =>
    cases hroute
    cases List.mem_singleton.1 hmem
    rw [answerRoute, respondToEvent, check_bind hrequester, check_bind_error herror]
    rfl
  | teamEvents segment =>
    cases hroute
    cases List.mem_singleton.1 hmem
    rw [answerRoute, listEvents, check_bind hrequester, check_bind_error herror]
    rfl
  | teamEvent teamSegment segment =>
    cases hroute
    rw [answerRoute, updateEvent, check_bind hrequester]
    rcases List.mem_cons.1 hmem with hteam | hmem
    · cases hteam
      rw [check_bind_error herror]
      rfl
    · cases List.mem_singleton.1 hmem
      -- the other segment is looked at first, and refused in the same words
      rcases exists_isIdentifier .team teamSegment with hother | ⟨teamId, hteam⟩
      · rw [check_bind_error hother.pathId_eq]
        rfl
      · rw [check_bind (isIdentifier_iff.1 hteam), check_bind_error herror]
        rfl
  | live | ready | metrics => cases hroute

theorem answerRoute_of_unreadable {segments : List (IdKind × String)}
    (hroute : route.segments? = some segments)
    (hrequester : authenticate settings request.headers = .ok requester)
    (hsegments : ∀ segment ∈ segments, ¬ NoIdentifier segment)
    (h : route.Unreadable settings request) :
    ∃ reason, answerRoute settings settings.maxBodyBytes request route =
      .done (Rejection.badRequest reason).response := by
  have hid {kind : IdKind} {segment : String} (hsegment : (kind, segment) ∈ segments) :
      ∃ id : Id kind, pathId segment = .ok id := by
    obtain ⟨id, hid⟩ := (exists_isIdentifier kind segment).resolve_left (hsegments _ hsegment)
    exact ⟨id, isIdentifier_iff.1 hid⟩
  cases h with
  | create hbody =>
    obtain ⟨reason, herror⟩ := readBody_eq_error hbody
    refine ⟨reason, ?_⟩
    rw [answerRoute, createEvent, check_bind hrequester, check_bind_error herror]
    rfl
  | respond hbody =>
    cases hroute
    obtain ⟨id, hid⟩ := hid (List.mem_singleton_self _)
    obtain ⟨reason, herror⟩ := readBody_eq_error hbody
    refine ⟨reason, ?_⟩
    rw [answerRoute, respondToEvent, check_bind hrequester, check_bind hid,
      check_bind_error herror]
    rfl
  | update hbody =>
    cases hroute
    obtain ⟨teamId, hteam⟩ := hid List.mem_cons_self
    obtain ⟨id, hid⟩ := hid (List.mem_cons_of_mem _ (List.mem_singleton_self _))
    obtain ⟨reason, herror⟩ := readBody_eq_error hbody
    refine ⟨reason, ?_⟩
    rw [answerRoute, updateEvent, check_bind hrequester, check_bind hteam, check_bind hid,
      check_bind_error herror]
    rfl

/-- What a request comes to is carried out, and the response tells of it. -/
theorem handle_of_demands {operation : Operation}
    (hrequester : authenticate settings request.headers = .ok requester)
    (h : route.Demands settings request operation) (c : Collaborators) (s : Scene)
    (outcome : Response × Scene) :
    s.handle c settings request route = some outcome ↔
      ∃ reply, s.carryOut ⟨settings, requester, operation, c⟩ = some (reply, outcome.2) ∧
        Tells requester operation reply outcome.1 := by
  cases h with
  | create hbody =>
    refine Scene.handle_of_serve ?_ rfl (Tells.created _) outcome
    rw [answerRoute, createEvent, check_bind hrequester, check_bind hbody.readBody_eq]
  | read hid =>
    refine Scene.handle_of_serve ?_ rfl (Tells.read _) outcome
    rw [answerRoute, showEvent, check_bind hrequester, check_bind (isIdentifier_iff.1 hid)]
  | respond hid hbody =>
    refine Scene.handle_of_serve ?_ rfl (Tells.responded _ _) outcome
    rw [answerRoute, respondToEvent, check_bind hrequester, check_bind (isIdentifier_iff.1 hid),
      check_bind hbody.readBody_eq]
  | list hteam =>
    refine Scene.handle_of_serve ?_ rfl (Tells.listed _) outcome
    rw [answerRoute, listEvents, check_bind hrequester, check_bind (isIdentifier_iff.1 hteam)]
  | update hteam hid hbody =>
    refine Scene.handle_of_serve ?_ rfl (Tells.updated _ _ _) outcome
    rw [answerRoute, updateEvent, check_bind hrequester, check_bind (isIdentifier_iff.1 hteam),
      check_bind (isIdentifier_iff.1 hid), check_bind hbody.readBody_eq]

/-- A request reaches a route: it is not declared to be too long, and the route allows its
method. -/
structure Request.Reaches (settings : RuntimeSettings) (request : Request) (route : Route) :
    Prop where
  fits : Layers.isDeclaredTooLong settings request = false
  route_eq : Route.ofPath? request.path = some route
  method : request.method ∈ route.methods

/-- What is sent is what the handler of the route has responded. -/
theorem Request.Reaches.run_limit (h : request.Reaches settings route) (c : Collaborators)
    (s : Scene) :
    ((Layers.limit settings request).interpret (Scene.answer c)).run s =
      (s.handle c settings request route).map fun outcome =>
        (request.sent outcome.1, outcome.2) := by
  have hfits : ¬ Layers.isDeclaredTooLong settings request = true := by simp [h.fits]
  have hplain : request.method ≠ "OPTIONS" := by
    intro hoptions
    have hmethod := h.method
    rw [hoptions] at hmethod
    cases route <;> simp [Route.methods] at hmethod
  have hlimit : Layers.limit settings request =
      (answerRoute settings settings.maxBodyBytes request route).bind fun response =>
        .done (request.sent response) := by
    rw [Layers.limit, if_neg hfits, Layers.share, if_neg hplain, answer, h.route_eq]
    dsimp only
    rw [if_pos h.method]
    unfold Request.sent
    by_cases hhead : request.method = "HEAD"
    · simp only [if_pos hhead]
      exact Dialogue.bind_assoc _ _ _
    · simp only [if_neg hhead]
      exact Dialogue.bind_assoc _ _ _
  rw [hlimit, Scene.run_bind_done]
  rfl

/-- What becomes of a request to a route of events, in the order of the checks. -/
structure RefusedInOrder (settings : RuntimeSettings) (request : Request) (route : Route)
    (segments : List (IdKind × String)) : Prop where
  /-- Whoever does not present the token or does not name a user gets the same response. -/
  unauthorized : isAuthorized settings request.headers = false ∨ request.headers.Nameless →
    ∀ c (s : Scene),
      s.handle c settings request route = some (Rejection.unauthorized.response, s)
  misdirected : ∀ requester, request.Identifies settings requester →
    (∃ segment ∈ segments, NoIdentifier segment) →
    ∃ response : Response, response.status = 400 ∧
      ∀ c (s : Scene), s.handle c settings request route = some (response, s)
  unreadable : ∀ requester, request.Identifies settings requester →
    (∀ segment ∈ segments, ¬ NoIdentifier segment) → route.Unreadable settings request →
    ∃ response : Response, response.status = 400 ∧
      ∀ c (s : Scene), s.handle c settings request route = some (response, s)
  served : ∀ requester operation, request.Identifies settings requester →
    route.Demands settings request operation → ∀ c (s : Scene) outcome,
      s.handle c settings request route = some outcome ↔
        ∃ reply, s.carryOut ⟨settings, requester, operation, c⟩ = some (reply, outcome.2) ∧
          Tells requester operation reply outcome.1
  /-- There are no other cases. -/
  exhaustive : (isAuthorized settings request.headers = false ∨ request.headers.Nameless) ∨
    ∃ requester, request.Identifies settings requester ∧
      ((∃ segment ∈ segments, NoIdentifier segment) ∨
        (∀ segment ∈ segments, ¬ NoIdentifier segment) ∧
          (route.Unreadable settings request ∨
            ∃ operation, route.Demands settings request operation))
  /-- What the handler responds is what is sent. -/
  sent : request.Reaches settings route → ∀ c (s : Scene),
    ((Layers.limit settings request).interpret (Scene.answer c)).run s =
      (s.handle c settings request route).map fun outcome => (request.sent outcome.1, outcome.2)

/-- A request about events is refused for the first reason that applies and then leaves everything
as it is, or else it is carried out once, in the name of whoever it names and with what it
carries. -/
theorem refusedInOrder (settings : RuntimeSettings) (request : Request) {route : Route}
    {segments : List (IdKind × String)} (hroute : route.segments? = some segments) :
    RefusedInOrder settings request route segments where
  unauthorized h c s := Scene.handle_of_settled
    (answerRoute_of_unauthorized hroute (authenticate_eq_error h) _)
  misdirected requester hrequester hsegments := by
    have hanswer := answerRoute_of_noIdentifier hroute hrequester.authenticate_eq hsegments
    exact ⟨(Rejection.badRequest "Invalid URL").response, rfl,
      fun c s => Scene.handle_of_settled (hanswer _)⟩
  unreadable requester hrequester hsegments hbody := by
    obtain ⟨reason, hanswer⟩ :=
      answerRoute_of_unreadable hroute hrequester.authenticate_eq hsegments hbody
    exact ⟨(Rejection.badRequest reason).response, rfl, fun c s => Scene.handle_of_settled hanswer⟩
  served requester operation hrequester hdemands c s outcome :=
    handle_of_demands hrequester.authenticate_eq hdemands c s outcome
  exhaustive := by
    rcases request.exists_identifies settings with hrefused | ⟨requester, hrequester⟩
    · exact Or.inl hrefused
    · exact Or.inr ⟨requester, hrequester, route.exists_demands settings request hroute⟩
  sent h c s := h.run_limit c s

end TeamCalendar.Http

namespace TeamCalendar

/-- An event is asked for in the name of a user, or of nobody, but none is named. -/
def Sample.asking (headers : Http.Headers) : Http.Request where
  method := "GET"
  path := "/v1/events/training"
  headers := headers

theorem Sample.noIdentifier_training : Http.NoIdentifier (.event, "training") := by
  rintro id ⟨s, hs, hid⟩
  have hdecoded : Text.percentDecode? "training" = some "training" := by decide +kernel
  have hnone : (Id.parse? "training" : Option EventId) = none := by decide +kernel
  rw [hdecoded] at hs
  cases hs
  cases hnone.symm.trans hid

theorem Sample.identifies_asking :
    (asking [.ofText Http.requesterField "00000000-0000-0000-0000-000000000002"]).Identifies
      settings coach where
  authorized := rfl
  names := by
    refine ⟨"00000000-0000-0000-0000-000000000002", ?_, ?_, ?_, ?_⟩ <;> decide +kernel

/-- Who names neither a user nor an event is refused for the former, and who names a user for the
latter. -/
theorem Http.refusedInOrder_sample :
    Route.ofPath? (Sample.asking []).path = some (.event "training") ∧
    (∀ c (s : Scene), s.handle c Sample.settings (Sample.asking []) (.event "training") =
      some (Rejection.unauthorized.response, s)) ∧
    Rejection.unauthorized.response.status = 401 ∧
    ∃ response : Response, response.status = 400 ∧ ∀ c (s : Scene),
      s.handle c Sample.settings
        (Sample.asking [.ofText requesterField "00000000-0000-0000-0000-000000000002"])
        (.event "training") = some (response, s) :=
  ⟨by decide +kernel,
    (refusedInOrder Sample.settings (Sample.asking []) rfl).unauthorized (.inr (.missing rfl)),
    rfl,
    (refusedInOrder Sample.settings _ rfl).misdirected _ Sample.identifies_asking
      ⟨_, List.mem_singleton_self _, Sample.noIdentifier_training⟩⟩

end TeamCalendar
