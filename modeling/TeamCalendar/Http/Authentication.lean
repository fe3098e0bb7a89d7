import TeamCalendar.Http.Rejection
import TeamCalendar.Identifier
import TeamCalendar.Service.Basic

/-!
# Authentication

If the settings have a token, a request has to present it after the word `Bearer`.  The requester is
named by a field of the header, which someone has set who has made sure of it.
-/

namespace TeamCalendar.Http

/-- The field that names the requester. -/
def requesterField : String :=
  "X-User-Id"

/-- What stands before a token. -/
def bearer : List Char :=
  "Bearer ".toList

/-- The token that a text presents, blanks around it aside. -/
def bearerToken? (s : String) : Option String :=
  let cs := Text.trimChars s.toList
  if bearer.isPrefixOf cs then
    let token := Text.trimChars (cs.drop bearer.length)
    if token.isEmpty then none else some (String.ofList token)
  else
    none

/-- Whether the token that is asked for is presented. -/
def isAuthorized (settings : RuntimeSettings) (headers : Headers) : Bool :=
  match settings.apiToken with
  | none => true
  | some token => (Headers.text? headers "Authorization").bind bearerToken? = some token

/-- The requester, if one is named. -/
def requester? (headers : Headers) : Option UserId :=
  (((Headers.text? headers requesterField).bind Id.parseTrimmed?) : Option UserId).filter
    (!·.isNil)

/-- The requester, if one is named and the token is presented. -/
def authenticate (settings : RuntimeSettings) (headers : Headers) : Except Rejection UserId :=
  if isAuthorized settings headers then
    match requester? headers with
    | some requester => .ok requester
    | none => .error .unauthorized
  else
    .error .unauthorized

end TeamCalendar.Http
