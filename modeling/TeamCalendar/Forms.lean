import TeamCalendar.Change
import TeamCalendar.Instant.Parser
import TeamCalendar.Instant.Printer
import TeamCalendar.Json.Record

/-!
# JSON forms of the domain

The forms in which events, responses and changes are exchanged.  Identifiers and instants are texts,
roles and statuses are words, and everything else is a record.
-/

namespace TeamCalendar

open Json (Codec Field Fields)

/-- Identifiers are texts. -/
def Id.codec {kind : IdKind} : Codec (Id kind) :=
  .parsed Id.parse? Id.text

/-- Instants are texts. -/
def Instant.codec : Codec Instant :=
  .parsed Instant.parse? Instant.text

/-- Pairs the values of a type with the words for them. -/
def wordsFor {α : Type} (name : α → String) (values : List α) : List (String × α) :=
  values.map fun value => (name value, value)

/-- Statuses are words. -/
def Status.codec : Codec Status :=
  .oneOf (wordsFor name [pending, accepted, declined, tentative]) name

/-- Roles are words. -/
def Role.codec : Codec Role :=
  .oneOf (wordsFor name [coach, manager, player, unknown]) name

/-- Kinds of change are words. -/
def ChangeKind.codec : Codec ChangeKind :=
  .oneOf (wordsFor name [eventCreated, eventUpdated, attendanceUpdated]) name

namespace NewEvent

/-- The types of the fields of an event without an identifier. -/
abbrev Columns : List Type :=
  [TeamId, String, String, String, Instant, Instant]

/-- The fields of an event without an identifier; the location may have a fallback. -/
def fields (location : Option String) : Fields Columns :=
  .cons (.required "team_id" Id.codec) <|
  .cons (.required "title" .text) <|
  .cons (.required "event_type" .text) <|
  .cons { key := "location", codec := .text, fallback := location } <|
  .cons (.required "start_time" Instant.codec) <|
  .cons (.required "end_time" Instant.codec)
  .nil

/-- The event with the given fields. -/
def ofRow : Json.Row Columns → NewEvent
  | (teamId, title, eventType, location, startTime, endTime, ()) =>
    { teamId, title, eventType, location, startTime, endTime }

/-- The fields of an event without an identifier, as a row. -/
def toRow (event : NewEvent) : Json.Row Columns :=
  (event.teamId, event.title, event.eventType, event.location, event.startTime, event.endTime, ())

/-- An event without an identifier. -/
def codec : Codec NewEvent :=
  .record (fields none) ofRow toRow

/-- An event that somebody asks for; the location may be missing. -/
def requestCodec : Codec NewEvent :=
  .record (fields (some "")) ofRow toRow

end NewEvent

namespace Event

/-- The types of the fields of an event. -/
abbrev Columns : List Type :=
  EventId :: NewEvent.Columns

/-- The fields of an event. -/
def fields : Fields Columns :=
  .cons (.required "id" Id.codec) (NewEvent.fields none)

/-- The event with the given fields. -/
def ofRow : Json.Row Columns → Event
  | (id, row) => { NewEvent.ofRow row with id }

/-- The fields of an event, as a row. -/
def toRow (event : Event) : Json.Row Columns :=
  (event.id, event.toNewEvent.toRow)

/-- An event. -/
def codec : Codec Event :=
  .record fields ofRow toRow

/-- The members of the object in which an event is written. -/
def members (event : Event) : List (String × Json) :=
  fields.members event.toRow

end Event

/-- A patch; what it does not change is null or missing. -/
def Patch.codec : Codec Patch :=
  .record
    (.cons (.optional "title" (.nullable .text) none) <|
     .cons (.optional "location" (.nullable .text) none) <|
     .cons (.optional "start_time" (.nullable Instant.codec) none) <|
     .cons (.optional "end_time" (.nullable Instant.codec) none)
     .nil)
    (fun (title, location, startTime, endTime, ()) => { title, location, startTime, endTime })
    (fun patch => (patch.title, patch.location, patch.startTime, patch.endTime, ()))

/-- A response that somebody gives. -/
def Status.requestCodec : Codec Status :=
  .record (.cons (.required "status" Status.codec) .nil)
    (fun (status, ()) => status) (fun status => (status, ()))

/-- The attendance of a user. -/
def AttendanceRecord.codec : Codec AttendanceRecord :=
  .record
    (.cons (.required "event_id" Id.codec) <|
     .cons (.required "team_id" Id.codec) <|
     .cons (.required "user_id" Id.codec) <|
     .cons (.required "status" Status.codec) <|
     .cons (.required "updated_at" Instant.codec)
     .nil)
    (fun (eventId, teamId, userId, status, updatedAt, ()) =>
      { eventId, teamId, userId, status, updatedAt })
    (fun record =>
      (record.eventId, record.teamId, record.userId, record.status, record.updatedAt, ()))

/-- A member of a team. -/
def Member.codec : Codec Member :=
  .record
    (.cons (.required "user_id" Id.codec) <|
     .cons (.required "role" Role.codec)
     .nil)
    (fun (userId, role, ()) => { userId, role })
    (fun member => (member.userId, member.role, ()))

/-- What is shown of a user. -/
def Profile.codec : Codec Profile :=
  .record
    (.cons (.required "first_name" .text) <|
     .cons (.required "last_name" .text) <|
     .cons (.required "email" .text)
     .nil)
    (fun (firstName, lastName, email, ()) => { firstName, lastName, email })
    (fun profile => (profile.firstName, profile.lastName, profile.email, ()))

/-- An attendee. -/
def Attendee.codec : Codec Attendee :=
  .record
    (.cons (.required "user_id" Id.codec) <|
     .cons (.required "first_name" .text) <|
     .cons (.required "last_name" .text) <|
     .cons (.required "email" .text) <|
     .cons (.required "status" Status.codec)
     .nil)
    (fun (userId, firstName, lastName, email, status, ()) =>
      { userId, profile := { firstName, lastName, email }, status })
    (fun attendee =>
      (attendee.userId, attendee.profile.firstName, attendee.profile.lastName,
        attendee.profile.email, attendee.status, ()))

namespace Change

/-- The types of the fields of a change. -/
abbrev Columns : List Type :=
  [ChangeKind, Event, UserId, Option Status, Instant]

/-- The fields of a change; a response is written only if there was one. -/
def fields : Fields Columns :=
  .cons (.required "kind" ChangeKind.codec) <|
  .cons (.required "event" Event.codec) <|
  .cons (.required "actor_id" Id.codec) <|
  .cons
    { key := "attendance_status"
      codec := .nullable Status.codec
      fallback := some none
      omits := Option.isNone } <|
  .cons (.required "occurred_at" Instant.codec)
  .nil

/-- The change with the given fields. -/
def ofRow : Json.Row Columns → Change
  | (kind, event, actorId, attendanceStatus, occurredAt, ()) =>
    { kind, event, actorId, attendanceStatus, occurredAt }

/-- The fields of a change, as a row. -/
def toRow (change : Change) : Json.Row Columns :=
  (change.kind, change.event, change.actorId, change.attendanceStatus, change.occurredAt, ())

/-- A change. -/
def codec : Codec Change :=
  .record fields ofRow toRow

/-- The members of the object in which a change is written. -/
def members (change : Change) : List (String × Json) :=
  fields.members change.toRow

end Change

namespace EventDetails

open Json Json.Reader

/-- The key of the attendees. -/
def attendanceKey : String :=
  "attendance"

/-- How deep a value among the members of the event may be nested. -/
def nestingLimit : Nat :=
  126

/-- What has been read of an event with its attendees. -/
structure Reading where
  /-- The attendees, if they have been read. -/
  attendance : Option (List Attendee) := none
  /-- The other members, the last one first. -/
  others : List (String × Option String) := []

/-- Reads a key, a colon and a value. -/
def readMember (reading : Reading) : Reader Reading := do
  let key ← readKey
  if key = attendanceKey then
    if reading.attendance.isSome then
      fail .mismatched
    readColon
    let attendance ← (Codec.list Attendee.codec).read
    pure { reading with attendance := some attendance }
  else
    readColon
    let value ← readWithin nestingLimit
    pure { reading with others := (key, value) :: reading.others }

/-- Reads an event with its attendees.  Its members are looked at only when all have been read. -/
def read : Reader EventDetails := do
  match ← peekStart with
  | .object =>
    advance
    let reading ← readObject readMember {}
    match reading.attendance with
    | none => fail .mismatched
    | some attendance =>
      let row ← Event.fields.readTexts reading.others.reverse
      pure { event := Event.ofRow row, attendance }
  | _ => refuse

/-- An event with its attendees among its fields. -/
def codec : Codec EventDetails where
  read := read
  write details :=
    .object (details.event.members ++
      [(attendanceKey, (Codec.list Attendee.codec).write details.attendance)])

end EventDetails

end TeamCalendar
