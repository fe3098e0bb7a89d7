import TeamCalendar.Proofs.Endpoint
import TeamCalendar.Proofs.Settings.Defaults

/-!
# How long a body may be

Two limits are set to the body of a request: the one that is laid down in the settings and the one up
to which a body is read as a whole, which no setting changes.  So a body is refused for its length if
it is longer than the smaller of the two, and a setting beyond the fixed limit has no effect.

* `Intake` is what a route does with a body, and `Request.Delivers` says that all is well with a
  request as far as its body.
* `RefusedForLength` says of a response that the body was too long for it.
-/

namespace TeamCalendar.Http

/-- What is done with a body: how it is read, and what its value is for. -/
structure Intake where
  /-- The type of the value. -/
  Value : Type
  /-- The form of the body. -/
  codec : Json.Codec Value
  /-- What is done with the value. -/
  serve : Value → Handler Response

namespace Intake

/-- An event is created from a body. -/
def create (settings : RuntimeSettings) (requester : UserId) : Intake where
  Value := NewEvent
  codec := NewEvent.requestCodec
  serve new := do
    let created ← Handler.serve (Service.createEvent settings requester new)
    pure (.json 201
      (.object (created.event.members ++ [("attendance_rows", .number created.attendanceRows)])))

/-- An event is changed as a body says. -/
def update (settings : RuntimeSettings) (requester : UserId) (teamId : TeamId) (id : EventId) :
    Intake where
  Value := Patch
  codec := Patch.codec
  serve patch := do
    let event ← Handler.serve (Service.updateEvent settings requester teamId id patch)
    pure (.json 200 (Event.codec.write event))

/-- The response to an event is taken from a body. -/
def respond (settings : RuntimeSettings) (requester : UserId) (id : EventId) : Intake where
  Value := Status
  codec := Status.requestCodec
  serve status := do
    let _ ← Handler.serve (Service.respond settings requester id status)
    pure (.json 200 (.object
      [("event_id", Id.codec.write id), ("user_id", Id.codec.write requester),
       ("status", Status.codec.write status)]))

end Intake

/-- What a route does with a body in the name of a requester; the identifiers in the path are well
formed. -/
inductive Route.Takes (settings : RuntimeSettings) (requester : UserId) : Route → Intake → Prop where
  | create : Takes settings requester .events (.create settings requester)
  | update {teamSegment segment : String} {teamId : TeamId} {id : EventId}
    (hteam : pathId teamSegment = .ok teamId) (hid : pathId segment = .ok id) :
    Takes settings requester (.teamEvent teamSegment segment) (.update settings requester teamId id)
  | respond {segment : String} {id : EventId} (hid : pathId segment = .ok id) :
    Takes settings requester (.attendance segment) (.respond settings requester id)

/-- Reads a body however long it is. -/
def readWhole {α : Type} (codec : Json.Codec α) (body : List UInt8) : Except Rejection α :=
  (codec.decodeFront body).mapError fun fault => .badRequest (faultReason fault)

/-- The marked response to a request, given what comes of reading its body. -/
def Intake.answer (intake : Intake) (read : Except Rejection intake.Value) :
    Dialogue Surroundings LayeredResponse := do
  let response ← (do intake.serve (← Handler.check read)).respond
  pure { response, added := Layers.sharingMarks }

/-- The request of an authenticated requester to a route that takes a body, by a method of the route
and with well-formed identifiers, whose body is said to be JSON. -/
structure Request.Delivers (settings : RuntimeSettings) (request : Request) (intake : Intake) :
    Prop where
  taken : ∃ route requester, Route.ofPath? request.path = some route ∧
    request.method ∈ route.methods ∧ authenticate settings request.headers = .ok requester ∧
    route.Takes settings requester intake
  isJson : Headers.isJson request.headers = true

/-- The reason that is given when a body is too long to be read as a whole. -/
def bufferReason : String :=
  "Failed to buffer the request body"

/-- A request is answered at once that its body is too long. -/
def RefusedForLength (dialogue : Dialogue Surroundings LayeredResponse) : Prop :=
  ∃ layered, dialogue = .done layered ∧
    (layered.response = Layers.tooLong ∨
      layered.response = (Rejection.badRequest bufferReason).response)

variable {settings : RuntimeSettings} {request : Request} {intake : Intake} {route : Route}
variable {requester : UserId}

theorem readBody_eq {α : Type} (codec : Json.Codec α) (limit : Nat)
    (hjson : Headers.isJson request.headers = true) :
    readBody codec limit request =
      if min limit readLimit < request.body.length then .error (.badRequest bufferReason)
      else readWhole codec request.body := by
  rw [readBody, hjson]
  rfl

theorem check_bind {α β : Type} {result : Except Rejection α} {value : α}
    (h : result = .ok value) (next : α → Handler β) : Handler.check result >>= next = next value := by
  rw [h]
  rfl

/-- A handler does with a body what its route does with one. -/
theorem Route.Takes.answerRoute_eq (htakes : route.Takes settings requester intake)
    (hauthentic : authenticate settings request.headers = .ok requester) (limit : Nat) :
    answerRoute settings limit request route =
      (Handler.check (readBody intake.codec limit request) >>= intake.serve).respond := by
  cases htakes with
  | create =>
    rw [answerRoute, createEvent, check_bind hauthentic]
    rfl
  | update hteam hid =>
    rw [answerRoute, updateEvent, check_bind hauthentic, check_bind hteam, check_bind hid]
    rfl
  | respond hid =>
    rw [answerRoute, respondToEvent, check_bind hauthentic, check_bind hid]
    rfl

/-- Beyond the layer that looks at the declared length, a request is answered by what is done with
its body. -/
theorem Request.Delivers.limit_eq (h : request.Delivers settings intake) :
    Layers.limit settings request =
      if Layers.isDeclaredTooLong settings request then .done { response := Layers.tooLong }
      else intake.answer (readBody intake.codec settings.maxBodyBytes request) := by
  obtain ⟨⟨route, requester, hroute, hmethod, hauthentic, htakes⟩, -⟩ := h
  have hplain : request.method ≠ "OPTIONS" ∧ request.method ≠ "HEAD" := by
    cases htakes with
    | create => rw [List.mem_singleton.1 hmethod]; decide
    | update hteam hid => rw [List.mem_singleton.1 hmethod]; decide
    | respond hid => rw [List.mem_singleton.1 hmethod]; decide
  have hanswer : answer settings settings.maxBodyBytes request =
      answerRoute settings settings.maxBodyBytes request route := by
    rw [answer, hroute]
    dsimp only
    rw [if_pos hmethod]
    simp only [if_neg hplain.2]
    exact bind_pure _
  rw [Layers.limit, Layers.share, if_neg hplain.1, hanswer, htakes.answerRoute_eq hauthentic]
  rfl

/-! ## Other reasons than the length -/

theorem badRequest_ne_tooLong (reason : String) :
    (Rejection.badRequest reason).response ≠ Layers.tooLong := by
  intro h
  have hstatus : (400 : Nat) = 413 := congrArg Response.status h
  cases hstatus

/-- A response shows its reason. -/
theorem escaped_eq_of_response_eq {reason other : String}
    (h : (Rejection.badRequest reason).response = (Rejection.badRequest other).response) :
    reason.toList.flatMap Json.escapeChar = other.toList.flatMap Json.escapeChar := by
  have hbody := String.ofList_injective (congrArg Response.body h)
  simpa [Json.render, Json.renderMembers, Json.commaSeparated, Json.quote, Rejection.message,
    String.toList_append, toString] using hbody

theorem not_refusedForLength_done {reason : String} {added : List (String × String)}
    (hother : reason.toList.flatMap Json.escapeChar ≠ bufferReason.toList.flatMap Json.escapeChar) :
    ¬ RefusedForLength (.done ⟨(Rejection.badRequest reason).response, added⟩) := by
  rintro ⟨_, ⟨⟩, htoolong | hbuffer⟩
  · exact badRequest_ne_tooLong reason htoolong
  · exact hother (escaped_eq_of_response_eq hbuffer)

theorem not_refusedForLength_ask {q : Surroundings.Question}
    {next : Surroundings.Answer q → Dialogue Surroundings LayeredResponse} :
    ¬ RefusedForLength (.ask q next) := by
  rintro ⟨_, ⟨⟩, -⟩

/-- A body that has been read is not refused for its length, whatever its value is. -/
theorem Route.Takes.not_refusedForLength (htakes : route.Takes settings requester intake)
    (value : intake.Value) : ¬ RefusedForLength (intake.answer (.ok value)) := by
  cases htakes with
  | create =>
    -- of the three only this one can be refused before anything is asked, for a flaw of the event
    change NewEvent at value
    change ¬ RefusedForLength (Dialogue.bind (Handler.respond (do
      let created ← Handler.serve (Service.createEvent settings requester value)
      pure _)) _)
    cases hvalid : value.normalized.validate with
    | error flaw =>
      rw [Service.createEvent, hvalid]
      exact not_refusedForLength_done (by cases flaw <;> decide +kernel)
    | ok =>
      rw [Service.createEvent, hvalid]
      exact not_refusedForLength_ask
  | update hteam hid => exact not_refusedForLength_ask
  | respond hid => exact not_refusedForLength_ask

theorem Request.Delivers.not_refusedForLength (h : request.Delivers settings intake)
    (body : List UInt8) : ¬ RefusedForLength (intake.answer (readWhole intake.codec body)) := by
  obtain ⟨⟨route, requester, -, -, -, htakes⟩, -⟩ := h
  rw [readWhole]
  cases intake.codec.decodeFront body with
  | error fault => exact not_refusedForLength_done (by cases fault <;> decide +kernel)
  | ok value => exact htakes.not_refusedForLength value

/-- Within both limits the body is read as a whole. -/
theorem Request.Delivers.limit_eq_of_le (h : request.Delivers settings intake)
    (hlength : request.body.length ≤ min settings.maxBodyBytes readLimit) :
    Layers.limit settings request = intake.answer (readWhole intake.codec request.body) := by
  have hdeclared : Layers.isDeclaredTooLong settings request = false := by
    have hle : ¬ settings.maxBodyBytes < request.body.length := by omega
    simp [Layers.isDeclaredTooLong, hle]
  rw [h.limit_eq, hdeclared, readBody_eq _ _ h.isJson, if_neg (Nat.not_lt.2 hlength)]
  rfl

/-- Beyond one of the limits the body is refused for its length. -/
theorem Request.Delivers.refusedForLength (h : request.Delivers settings intake)
    (hlength : min settings.maxBodyBytes readLimit < request.body.length) :
    RefusedForLength (Layers.limit settings request) := by
  rw [h.limit_eq, readBody_eq _ _ h.isJson, if_pos hlength]
  split
  · exact ⟨_, rfl, .inl rfl⟩
  · exact ⟨_, rfl, .inr rfl⟩

/-- The body of a request is refused for its length exactly if it is longer than the smaller of the
limit that is laid down and the limit up to which bodies are read; otherwise it is read as a whole.  So
the limit that is laid down is the limit, except for bodies between the two. -/
theorem refusedForLength_iff (h : request.Delivers settings intake) :
    (RefusedForLength (Layers.limit settings request) ↔
      min settings.maxBodyBytes readLimit < request.body.length) ∧
    (request.body.length ≤ min settings.maxBodyBytes readLimit →
      Layers.limit settings request = intake.answer (readWhole intake.codec request.body)) ∧
    ((RefusedForLength (Layers.limit settings request) ↔
        settings.maxBodyBytes < request.body.length) ↔
      ¬ (readLimit < request.body.length ∧ request.body.length ≤ settings.maxBodyBytes)) := by
  have hiff : RefusedForLength (Layers.limit settings request) ↔
      min settings.maxBodyBytes readLimit < request.body.length := by
    constructor
    · intro hrefused
      by_contra hlength
      rw [h.limit_eq_of_le (Nat.not_lt.1 hlength)] at hrefused
      exact h.not_refusedForLength _ hrefused
    · exact h.refusedForLength
  refine ⟨hiff, h.limit_eq_of_le, ?_⟩
  rw [hiff]
  omega

end TeamCalendar.Http

namespace TeamCalendar

/-- The coach posts a body. -/
def Sample.posting (body : List UInt8) : Http.Request where
  method := "POST"
  path := "/v1/events"
  headers := [.ofText Http.requesterField "00000000-0000-0000-0000-000000000002",
    .ofText "Content-Type" "application/json"]
  body := body

theorem Sample.delivers_posting {settings : RuntimeSettings} (htoken : settings.apiToken = none)
    (body : List UInt8) :
    (posting body).Delivers settings (.create settings coach) where
  taken := by
    have hauthorized : Http.isAuthorized settings (posting body).headers = true := by
      rw [Http.isAuthorized, htoken]
    have hempty : Http.requester? (posting []).headers = some coach := by decide +kernel
    have hrequester : Http.requester? (posting body).headers = some coach := hempty
    have hauthentic : Http.authenticate settings (posting body).headers = .ok coach := by
      rw [Http.authenticate, if_pos hauthorized, hrequester]
    have hroute : Http.Route.ofPath? "/v1/events" = some .events := by decide +kernel
    exact ⟨.events, coach, hroute, List.mem_singleton_self _, hauthentic, .create⟩
  isJson := by
    have hjson : (posting []).headers.isJson = true := by decide +kernel
    exact hjson

/-- One byte more than the settings allow is refused. -/
theorem Http.refusedForLength_iff_sample :
    (Sample.posting (List.replicate 65537 0x20)).Delivers Sample.settings
        (.create Sample.settings Sample.coach) ∧
      Http.RefusedForLength (Http.Layers.limit Sample.settings
        (Sample.posting (List.replicate 65537 0x20))) := by
  have hdelivers : (Sample.posting (List.replicate 65537 0x20)).Delivers Sample.settings
      (.create Sample.settings Sample.coach) :=
    Sample.delivers_posting rfl _
  refine ⟨hdelivers, (Http.refusedForLength_iff hdelivers).1.2 ?_⟩
  change min 65536 2097152 < (List.replicate 65537 (0x20 : UInt8)).length
  rw [List.length_replicate]
  decide

/-- An event with many blanks after it. -/
def Sample.longEvent : List UInt8 :=
  Text.bytesOf ("\x7b\"team_id\":\"00000000-0000-0000-0000-000000000001\"," ++
    "\"title\":\"Training\",\"event_type\":\"practice\"," ++
    "\"start_time\":\"1970-01-01T00:00:00Z\",\"end_time\":\"1970-01-01T01:00:00Z\"\x7d") ++
      List.replicate 2097152 0x20

/-- Settings that allow four megabytes are accepted, an event of little more than two can be read, and
yet it is refused for its length. -/
theorem Http.exists_refusedForLength_of_le :
    ∃ settings : Settings,
      Settings.load none [("EVENTS_MAX_BODY_BYTES", "4194304")] = .ok settings ∧
        (Sample.posting Sample.longEvent).Delivers settings.runtime
          (.create settings.runtime Sample.coach) ∧
        Sample.longEvent.length ≤ settings.maxBodyBytes ∧
        (Http.readWhole NewEvent.requestCodec Sample.longEvent).isOk = true ∧
        Http.RefusedForLength (Http.Layers.limit settings.runtime
          (Sample.posting Sample.longEvent)) := by
  have hlength : Sample.longEvent.length = 163 + 2097152 := by
    rw [Sample.longEvent, List.length_append, List.length_replicate]
    congr 1
    decide +kernel
  let settings : Settings := { maxBodyBytes := 4194304 }
  have hload : Settings.load none [("EVENTS_MAX_BODY_BYTES", "4194304")] = .ok settings :=
    Settings.load_default rfl nofun (by decide)
  have hdelivers : (Sample.posting Sample.longEvent).Delivers settings.runtime
      (.create settings.runtime Sample.coach) :=
    Sample.delivers_posting rfl _
  refine ⟨settings, hload, hdelivers, ?_, by decide +kernel, hdelivers.refusedForLength ?_⟩
  · rw [hlength]
    decide
  · change min 4194304 2097152 < Sample.longEvent.length
    rw [hlength]
    decide

end TeamCalendar
