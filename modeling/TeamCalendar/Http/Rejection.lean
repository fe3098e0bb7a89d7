import TeamCalendar.Http.Message
import TeamCalendar.Json.Value
import TeamCalendar.Refusal

/-!
# Rejections

How a request that is not fulfilled is answered: with a status and the reason.  Of failures of other
services and of the storage no details are given.
-/

namespace TeamCalendar.Http

/-- Why a request is rejected. -/
inductive Rejection where
  /-- The requester is not known. -/
  | unauthorized
  /-- The request cannot be understood or is not acceptable. -/
  | badRequest (reason : String)
  /-- The requester may not do it. -/
  | forbidden
  /-- What the request is about does not exist. -/
  | notFound (what : String)
  /-- Another service failed. -/
  | badGateway
  /-- The storage failed. -/
  | internal
  deriving DecidableEq

namespace Rejection

/-- The rejection of a request that the service refuses. -/
def ofRefusal : Refusal → Rejection
  | .validation reason => .badRequest reason
  | .forbidden => .forbidden
  | .notFound what => .notFound what
  | .unavailable _ => .badGateway
  | .storage _ => .internal

/-- The status of a rejection. -/
def status : Rejection → Nat
  | .unauthorized => 401
  | .badRequest _ => 400
  | .forbidden => 403
  | .notFound _ => 404
  | .badGateway => 502
  | .internal => 500

/-- The explanation of a rejection. -/
def message : Rejection → String
  | .unauthorized => "unauthorized"
  | .badRequest reason => s!"bad request: {reason}"
  | .forbidden => "forbidden"
  | .notFound what => s!"{what} not found"
  | .badGateway => "upstream service unavailable"
  | .internal => "internal error"

end Rejection

/-- A response with a JSON body. -/
def Response.json (status : Nat) (body : Json) : Response where
  status := status
  contentType := some "application/json"
  body := body.toText

/-- The response to a request that is rejected. -/
def Rejection.response (rejection : Rejection) : Response :=
  .json rejection.status (.object [("error", .text rejection.message)])

end TeamCalendar.Http
