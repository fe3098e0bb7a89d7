import TeamCalendar.Http.Message

/-!
# Routes

A route is chosen by the path as it was sent, without its query; segments are decoded only later.  A
segment in the middle of a path may be empty, the last one may not.
-/

namespace TeamCalendar.Http

/-- A place that requests can be sent to; its segments are as they were sent. -/
inductive Route where
  /-- All events. -/
  | events
  /-- An event. -/
  | event (id : String)
  /-- The attendance of an event. -/
  | attendance (id : String)
  /-- The events of a team. -/
  | teamEvents (teamId : String)
  /-- An event of a team. -/
  | teamEvent (teamId id : String)
  /-- Whether the service runs. -/
  | live
  /-- Whether the service can do its work. -/
  | ready
  /-- The counters. -/
  | metrics
  deriving DecidableEq

namespace Route

/-- The route with the given segments. -/
def ofSegments? : List String → Option Route
  | ["", "v1", "events"] => some .events
  | ["", "v1", "events", id] => if id.isEmpty then none else some (.event id)
  | ["", "v1", "events", id, "attendance"] => some (.attendance id)
  | ["", "v1", "teams", teamId, "events"] => some (.teamEvents teamId)
  | ["", "v1", "teams", teamId, "events", id] =>
    if id.isEmpty then none else some (.teamEvent teamId id)
  | ["", "v1", "ops", "health", "live"] => some .live
  | ["", "v1", "ops", "health", "ready"] => some .ready
  | ["", "v1", "ops", "metrics", "prometheus"] => some .metrics
  | _ => none

/-- The methods that a route allows. -/
def methods : Route → List String
  | .events => ["POST"]
  | .attendance _ | .teamEvent .. => ["PUT"]
  | .event _ | .teamEvents _ | .live | .ready | .metrics => ["GET", "HEAD"]

end Route

/-- The segments of a path, without a query or a fragment. -/
def segments (path : String) : List String :=
  ((path.toList.takeWhile fun c => c ≠ '?' && c ≠ '#').splitOn '/').map String.ofList

/-- The route of a path. -/
def Route.ofPath? (path : String) : Option Route :=
  ofSegments? (segments path)

end TeamCalendar.Http
