import TeamCalendar.Digest.Hmac
import TeamCalendar.Forms
import TeamCalendar.Text.Hex
import TeamCalendar.Web

/-!
# Delivery of changes

A change is delivered to one address under a topic.  The body is the change with the topic before it;
the topic is repeated in the header.  If there is a secret, the header also has a signature of the
body, so that the receiver can tell who sent it.
-/

namespace TeamCalendar

/-- The JSON form of a change under a topic. -/
def Change.envelope (change : Change) (topic : String) : Json :=
  .object (("topic", .text topic) :: change.members)

namespace Delivery

/-- The body in which a change is delivered. -/
def body (topic : String) (change : Change) : String :=
  (change.envelope topic).toText

/-- The signature of a text under a secret. -/
def signature (secret payload : String) : String :=
  "sha256=" ++ String.ofList
    ((Digest.Hmac.sign (Text.bytesOf secret) (Text.bytesOf payload)).flatMap Text.hexByte)

/-- The field of the topic. -/
def topicField : String :=
  "X-Event-Topic"

/-- The field of the signature. -/
def signatureField : String :=
  "X-Signature-256"

/-- The header of the message that delivers a body. -/
def headers (topic : String) (secret : Option String) (body : String) : Http.Headers :=
  [.ofText "Content-Type" "application/json", .ofText topicField topic] ++
    (secret.map fun secret => .ofText signatureField (signature secret body)).toList

/-- The message that delivers a change, if its header may be sent. -/
def message? (url topic : String) (secret : Option String) (change : Change) :
    Option Web.Message :=
  let body := body topic change
  let headers := headers topic secret body
  if headers.all (·.isLegal) then some { method := "POST", url, headers, body } else none

/-- Delivers a change.  Nobody is told if it does not get there. -/
def deliver (url topic : String) (secret : Option String) (change : Change) : Dialogue Web Unit :=
  match message? url topic secret change with
  | some message => do
    let _ ← Dialogue.question (I := Web) message
    pure ()
  | none => pure ()

end Delivery

end TeamCalendar
