import TeamCalendar.Forms
import TeamCalendar.Http.Authentication
import TeamCalendar.Http.MediaType
import TeamCalendar.Http.Route
import TeamCalendar.Service.Commands
import TeamCalendar.Service.Queries
import TeamCalendar.Text.Percent

/-!
# Requests answered

A request is checked in a fixed order: its route and its method, the token and the requester, the
identifiers in the path, and the type and the form of the body.  Only then is the service asked.
-/

namespace TeamCalendar.Http

/-- A dialogue with the surroundings that may end in a rejection. -/
abbrev Handler (α : Type) :=
  ExceptT Rejection (Dialogue Surroundings) α

namespace Handler

/-- Goes on if a check succeeds. -/
def check {α : Type} (result : Except Rejection α) : Handler α :=
  ExceptT.mk (pure result)

/-- Asks the service. -/
def serve {α : Type} (service : Service α) : Handler α :=
  ExceptT.adapt Rejection.ofRefusal service

/-- The response of a handler. -/
def respond (handler : Handler Response) : Dialogue Surroundings Response := do
  match ← handler.run with
  | .ok response => pure response
  | .error rejection => pure rejection.response

end Handler

/-- How long a body may be that is read as a whole. -/
def readLimit : Nat :=
  2097152

/-- The identifier in a segment of a path. -/
def pathId {kind : IdKind} (segment : String) : Except Rejection (Id kind) :=
  match (Text.percentDecode? segment).bind Id.parse? with
  | some id => .ok id
  | none => .error (.badRequest "Invalid URL")

/-- Why a body with a fault cannot be read. -/
def faultReason : Json.Fault → String
  | .mismatched => "Failed to deserialize the JSON body into the target type"
  | .ended | .malformed => "Failed to parse the request body as JSON"

/-- Reads the body of a request.  What follows the value does not matter. -/
def readBody {α : Type} (codec : Json.Codec α) (limit : Nat) (request : Request) :
    Except Rejection α :=
  if !Headers.isJson request.headers then
    .error (.badRequest "Expected request with `Content-Type: application/json`")
  else if min limit readLimit < request.body.length then
    .error (.badRequest "Failed to buffer the request body")
  else
    (codec.decodeFront request.body).mapError fun fault => .badRequest (faultReason fault)

/-- Creates an event. -/
def createEvent (settings : RuntimeSettings) (limit : Nat) (request : Request) :
    Handler Response := do
  let requester ← Handler.check (authenticate settings request.headers)
  let new ← Handler.check (readBody NewEvent.requestCodec limit request)
  let created ← Handler.serve (Service.createEvent settings requester new)
  pure (.json 201
    (.object (created.event.members ++ [("attendance_rows", .number created.attendanceRows)])))

/-- Shows an event with its attendees. -/
def showEvent (settings : RuntimeSettings) (request : Request) (id : String) :
    Handler Response := do
  let requester ← Handler.check (authenticate settings request.headers)
  let id ← Handler.check (pathId id)
  let details ← Handler.serve (Service.eventDetails settings requester id)
  pure (.json 200 (EventDetails.codec.write details))

/-- Changes an event. -/
def updateEvent (settings : RuntimeSettings) (limit : Nat) (request : Request)
    (teamId id : String) : Handler Response := do
  let requester ← Handler.check (authenticate settings request.headers)
  let teamId ← Handler.check (pathId teamId)
  let id ← Handler.check (pathId id)
  let patch ← Handler.check (readBody Patch.codec limit request)
  let event ← Handler.serve (Service.updateEvent settings requester teamId id patch)
  pure (.json 200 (Event.codec.write event))

/-- Lists the events of a team. -/
def listEvents (settings : RuntimeSettings) (request : Request) (teamId : String) :
    Handler Response := do
  let requester ← Handler.check (authenticate settings request.headers)
  let teamId ← Handler.check (pathId teamId)
  let events ← Handler.serve (Service.teamEvents settings requester teamId)
  pure (.json 200 (.object
    [("team_id", Id.codec.write teamId), ("events", (Json.Codec.list Event.codec).write events)]))

/-- Takes a response to an event. -/
def respondToEvent (settings : RuntimeSettings) (limit : Nat) (request : Request) (id : String) :
    Handler Response := do
  let requester ← Handler.check (authenticate settings request.headers)
  let id ← Handler.check (pathId id)
  let status ← Handler.check (readBody Status.requestCodec limit request)
  let _ ← Handler.serve (Service.respond settings requester id status)
  pure (.json 200 (.object
    [("event_id", Id.codec.write id), ("user_id", Id.codec.write requester),
     ("status", Status.codec.write status)]))

/-- Tells whether the storage can be reached in time. -/
def showReadiness (settings : RuntimeSettings) : Dialogue Surroundings Response := do
  let answer ← Dialogue.question (I := Surroundings) (.storage .ping)
  let answer : Timed (Except String Unit) := answer
  let deadline := 1000 * max settings.requestTimeoutSeconds 1
  if answer.delay ≤ deadline ∧ answer.value.isOk then
    pure { status := 200 }
  else
    pure { status := 503 }

/-- Shows the counters to those who present the token. -/
def showMetrics (settings : RuntimeSettings) (request : Request) :
    Dialogue Surroundings Response := do
  if isAuthorized settings request.headers then
    let tally ← Dialogue.question (I := Surroundings) .tally
    pure
      { status := 200
        contentType := some "text/plain; version=0.0.4; charset=utf-8"
        body := Tally.text tally }
  else
    pure
      { status := 401
        contentType := some "text/plain; charset=utf-8"
        body := "unauthorized" }

/-- Answers a request to a route, whatever its method. -/
def answerRoute (settings : RuntimeSettings) (limit : Nat) (request : Request) :
    Route → Dialogue Surroundings Response
  | .events => (createEvent settings limit request).respond
  | .event id => (showEvent settings request id).respond
  | .attendance id => (respondToEvent settings limit request id).respond
  | .teamEvents teamId => (listEvents settings request teamId).respond
  | .teamEvent teamId id => (updateEvent settings limit request teamId id).respond
  | .live => pure { status := 200 }
  | .ready => showReadiness settings
  | .metrics => showMetrics settings request

/-- Answers a request of which no more than `limit` bytes of the body are read.  A request for the
header only is answered without a body. -/
def answer (settings : RuntimeSettings) (limit : Nat) (request : Request) :
    Dialogue Surroundings Response :=
  match Route.ofPath? request.path with
  | none => pure { status := 404 }
  | some route =>
    if request.method ∈ route.methods then do
      let response ← answerRoute settings limit request route
      if request.method = "HEAD" then
        pure { response with body := "" }
      else
        pure response
    else
      pure { status := 405, allow := some (",".intercalate route.methods) }

end TeamCalendar.Http
