import TeamCalendar.Dialogue
import TeamCalendar.Http.Message
import TeamCalendar.Http.Target
import TeamCalendar.Url

/-!
# The web

Messages that the service sends to others over HTTP, and what comes back.  A reply may have any
status and any body.
-/

namespace TeamCalendar

namespace Web

/-- A message to another service. -/
structure Message where
  /-- The method. -/
  method : String
  /-- The address. -/
  url : String
  /-- The header. -/
  headers : Http.Headers := []
  /-- The body. -/
  body : String := ""

/-- Whether a host can be named in a request.  Characters outside of the Basic Latin block are
written in others. -/
def isNameable : Url.Host → Bool
  | .domain labels =>
    labels.all (·.all fun c => !Text.isBasicLatin c || Http.isAuthorityChar c)
  | .number _ | .bracketed _ | .plain _ => true

/-- Whether a message can be sent to an address. -/
def isAddress (url : String) : Bool :=
  (Url.parse? url).any fun url =>
    (url.scheme = "http" || url.scheme = "https") && url.host.all isNameable

/-- Whether a message can be sent. -/
def Message.isSendable (message : Message) : Bool :=
  isAddress message.url && message.headers.all (·.isLegal)

/-- Why a message gets no reply. -/
inductive Failure where
  /-- The message cannot be sent to such an address, or not with such a header. -/
  | unsendable
  /-- Nobody takes the message. -/
  | unreachable
  /-- The reply does not come in time. -/
  | late
  deriving DecidableEq

/-- A reply to a message. -/
structure Reply where
  /-- The status. -/
  status : Nat
  /-- The body. -/
  body : List UInt8

/-- Whether a status says that the message was at fault, or the one who received it. -/
def Reply.isError (reply : Reply) : Bool :=
  400 ≤ reply.status && reply.status ≤ 599

end Web

/-- Messages to other services. -/
def Web : Interface where
  Question := Web.Message
  Answer _ := Except Web.Failure Web.Reply

end TeamCalendar
