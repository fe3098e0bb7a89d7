import TeamCalendar.Http.Handler

/-!
# Layers

What stands between a request and the handlers.  The outer layer refuses a body that is declared to
be longer than the settings allow; a body of undeclared length is read as far as they allow.  The
inner layer lets scripts of any origin use the service: it answers a question about that by itself,
and marks every other response.
-/

namespace TeamCalendar.Http

/-- A response with the header fields that a layer adds. -/
structure LayeredResponse where
  /-- The response. -/
  response : Response
  /-- The names and values of the added fields. -/
  added : List (String × String) := []
  deriving DecidableEq

namespace Layers

/-- The fields that answer the question whether a script may use the service. -/
def sharingAnswer : List (String × String) :=
  [("access-control-allow-origin", "*"), ("access-control-allow-methods", "*"),
   ("access-control-allow-headers", "*")]

/-- The fields that let a script see a response. -/
def sharingMarks : List (String × String) :=
  [("access-control-allow-origin", "*"), ("access-control-expose-headers", "*")]

/-- The response to a request whose body is declared to be too long. -/
def tooLong : Response where
  status := 413
  contentType := some "text/plain; charset=utf-8"
  body := "length limit exceeded"

/-- Whether the body of a request is declared to be longer than allowed. -/
def isDeclaredTooLong (settings : RuntimeSettings) (request : Request) : Bool :=
  request.declaresLength && settings.maxBodyBytes < request.body.length

/-- Answers a request, or the question of a script. -/
def share (settings : RuntimeSettings) (request : Request) :
    Dialogue Surroundings LayeredResponse :=
  if request.method = "OPTIONS" then
    pure { response := { status := 200 }, added := sharingAnswer }
  else do
    pure { response := ← answer settings settings.maxBodyBytes request, added := sharingMarks }

/-- Answers a request that is not declared to be too long. -/
def limit (settings : RuntimeSettings) (request : Request) :
    Dialogue Surroundings LayeredResponse :=
  if isDeclaredTooLong settings request then pure { response := tooLong } else share settings request

end Layers

end TeamCalendar.Http
