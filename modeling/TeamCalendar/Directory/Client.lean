import TeamCalendar.Directory
import TeamCalendar.Forms
import TeamCalendar.Text.Slash
import TeamCalendar.Web

/-!
# Directories on the web

The directories are asked over HTTP with JSON bodies.  A status that says error is a failure, and so
is a body of another form than expected.  Entries under keys that are no identifiers are left out.
-/

namespace TeamCalendar.Directory

open Json (Codec)

/-- Why a directory gives no answer. -/
inductive ClientFailure where
  /-- The status says error. -/
  | status (code : Nat)
  /-- The body is not of the expected form. -/
  | undecodable
  /-- There is no reply; the context says to what. -/
  | web (failure : Web.Failure) (context : String)
  deriving DecidableEq

/-- The explanation of a failure. -/
def ClientFailure.message : ClientFailure → String
  | status code => s!"HTTP status {code}"
  | undecodable => "error decoding response body"
  | web _ context => context

/-- The body of a question about users. -/
def userIdsBody (userIds : List UserId) : String :=
  (Json.object [("user_ids", (Codec.list Id.codec).write userIds)]).toText

/-- What a question is about, for the explanation of a failure. -/
def Question.context : Question → String
  | membership .. => "membership request failed"
  | roster _ => "team summary request failed"
  | profiles _ => "profile batch request failed"

/-- A message with a JSON body. -/
def post (url body : String) : Web.Message where
  method := "POST"
  url := url
  headers := [.ofText "Content-Type" "application/json"]
  body := body

/-- The message that asks a question of the directory at an address. -/
def message (url : String) : Question → Web.Message
  | .membership teamId userIds =>
    post s!"{Text.dropEndSlashes url}/internal/teams/{teamId}/membership" (userIdsBody userIds)
  | .roster teamId => { method := "GET", url := s!"{Text.dropEndSlashes url}/internal/teams/{teamId}/summary" }
  | .profiles userIds => post s!"{Text.dropEndSlashes url}/internal/profiles/batch" (userIdsBody userIds)

/-- A record with one optional field. -/
def optionalField {α : Type} (key : String) (codec : Codec α) (fallback : α) : Codec α :=
  .record (.cons (.optional key codec fallback) .nil) (fun (value, ()) => value)
    (fun value => (value, ()))

/-- The body of an answer about memberships: texts of roles by texts of users. -/
def membershipCodec : Codec (List (String × String)) :=
  optionalField "members"
    (.dictionary (.record (.cons (.required "role" .text) .nil) (fun (role, ()) => role)
      (fun role => (role, ()))))
    []

/-- The body of an answer that lists members: texts of users and of roles. -/
def rosterCodec : Codec (List (String × String)) :=
  optionalField "members"
    (.list (.record
      (.cons (.required "user_id" .text) <| .cons (.required "role" .text) .nil)
      (fun (userId, role, ()) => (userId, role)) (fun (userId, role) => (userId, role, ()))))
    []

/-- The body of an answer about profiles: profiles by texts of users. -/
def profilesCodec : Codec (List (String × Profile)) :=
  optionalField "profiles" (.dictionary Profile.codec) []

/-- The entries whose keys are identifiers. -/
def identified {α : Type} (entries : List (String × α)) : List (UserId × α) :=
  entries.filterMap fun (key, value) => (Id.parseTrimmed? key).map fun userId => (userId, value)

/-- The roles that entries give, visited in their order; a later entry of a user counts. -/
def membershipOf (entries : List (String × String)) : Membership :=
  Std.ExtTreeMap.ofList ((identified entries).map fun (userId, role) => (userId, Role.ofText role))
    compare

/-- The members that entries give. -/
def rosterOf (entries : List (String × String)) : List Member :=
  (identified entries).map fun (userId, role) => { userId, role := Role.ofText role }

/-- The profiles that entries give, visited in their order; a later entry of a user counts. -/
def profilesOf (entries : List (String × Profile)) : Profiles :=
  Std.ExtTreeMap.ofList (identified entries) compare

/-- Reads the body of a reply. -/
def receive {α : Type} (q : Question) (codec : Codec α)
    (reply : Except Web.Failure Web.Reply) : Except ClientFailure α :=
  match reply with
  | .error failure => .error (.web failure q.context)
  | .ok reply =>
    if reply.isError then
      .error (.status reply.status)
    else
      (codec.decode reply.body).mapError fun _ => .undecodable

/-- The answer that a directory gives to a question, in detail. -/
def Result : Question → Type
  | .membership .. => Except ClientFailure Membership
  | .roster _ => Except ClientFailure (List Member)
  | .profiles _ => Except ClientFailure Profiles

/-- Sends a message to the directory at an address. -/
def send (url : String) (q : Question) : Dialogue Web (Except Web.Failure Web.Reply) :=
  Dialogue.question (I := Web) (message url q)

/-- Asks the directory at an address.  Nobody is asked for the profiles of no users. -/
def ask (url : String) : (q : Question) → Dialogue Web (Result q)
  | .membership teamId userIds => do
    let q := Question.membership teamId userIds
    pure ((receive q membershipCodec (← send url q)).map membershipOf)
  | .roster teamId => do
    let q := Question.roster teamId
    pure ((receive q rosterCodec (← send url q)).map rosterOf)
  | .profiles [] => pure (.ok ∅)
  | .profiles (userId :: userIds) => do
    let q := Question.profiles (userId :: userIds)
    pure ((receive q profilesCodec (← send url q)).map profilesOf)

/-- The answer of a directory that a result comes to. -/
def answerOf : (q : Question) → Result q → Answer q
  | .membership .., result => Except.mapError ClientFailure.message result
  | .roster _, result => Except.mapError ClientFailure.message result
  | .profiles _, result => Except.mapError ClientFailure.message result

end TeamCalendar.Directory
