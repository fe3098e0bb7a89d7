import TeamCalendar.Identifier
import TeamCalendar.Instant
import TeamCalendar.Text.Blank
import TeamCalendar.Text.Case

/-!
# Events

An event belongs to one team for as long as it exists, and so does its type.  Its title, its
location and its times may be changed by patches.

* `NewEvent.normalized` brings an event into the form in which it is stored.
* `NewEvent.validate` finds the first flaw of an event, `Patch.apply` that of a changed one.
-/

namespace TeamCalendar

/-- What makes an event, or a change of one, unacceptable. -/
inductive EventFlaw where
  /-- The event belongs to no team. -/
  | missingTeam
  /-- The title is blank. -/
  | emptyTitle
  /-- The type is blank. -/
  | emptyEventType
  /-- The event does not start before it ends. -/
  | invalidTimeRange
  /-- The patch changes nothing. -/
  | emptyPatch
  deriving DecidableEq

/-- The explanation of a flaw. -/
def EventFlaw.message : EventFlaw → String
  | missingTeam => "team_id is required"
  | emptyTitle => "title must not be empty"
  | emptyEventType => "event_type must not be empty"
  | invalidTimeRange => "start_time must be before end_time"
  | emptyPatch => "update must change at least one field"

/-- An event that has not got an identifier yet. -/
structure NewEvent where
  /-- The team. -/
  teamId : TeamId
  /-- The title. -/
  title : String
  /-- The type. -/
  eventType : String
  /-- The location. -/
  location : String
  /-- The start. -/
  startTime : Instant
  /-- The end. -/
  endTime : Instant
  deriving DecidableEq

/-- An event. -/
structure Event extends NewEvent where
  /-- The identifier. -/
  id : EventId
  deriving DecidableEq

namespace NewEvent

/-- Trims the type and brings it into lower case, and drops what is below a microsecond from the
times. -/
def normalized (event : NewEvent) : NewEvent :=
  { event with
    eventType := Text.lower (Text.trim event.eventType)
    startTime := event.startTime.truncate
    endTime := event.endTime.truncate }

/-- Finds the first flaw of an event. -/
def validate (event : NewEvent) : Except EventFlaw Unit :=
  if event.teamId.isNil then .error .missingTeam
  else if Text.isBlankText event.title then .error .emptyTitle
  else if Text.isBlankText event.eventType then .error .emptyEventType
  else if event.startTime < event.endTime then .ok ()
  else .error .invalidTimeRange

end NewEvent

namespace Event

/-- Whether an event comes not later than another one: by the start, then by the identifier. -/
def precedes (a b : Event) : Bool :=
  a.startTime < b.startTime || (a.startTime = b.startTime && (compare a.id b.id).isLE)

/-- Events in the order of their starts; those that start together are in the order of their
identifiers. -/
def sorted (events : List Event) : List Event :=
  events.mergeSort precedes

end Event

/-- New values for some of what may be changed of an event. -/
structure Patch where
  /-- The title. -/
  title : Option String := none
  /-- The location. -/
  location : Option String := none
  /-- The start. -/
  startTime : Option Instant := none
  /-- The end. -/
  endTime : Option Instant := none
  deriving DecidableEq

namespace Patch

/-- Whether the patch changes nothing. -/
def isEmpty (patch : Patch) : Bool :=
  patch.title.isNone && patch.location.isNone && patch.startTime.isNone && patch.endTime.isNone

/-- The event with the new values in place of the old ones; times are truncated. -/
def overlay (patch : Patch) (event : Event) : Event :=
  { event with
    title := patch.title.getD event.title
    location := patch.location.getD event.location
    startTime := (patch.startTime.map Instant.truncate).getD event.startTime
    endTime := (patch.endTime.map Instant.truncate).getD event.endTime }

/-- Changes an event, or finds the first flaw of the change. -/
def apply (patch : Patch) (event : Event) : Except EventFlaw Event :=
  let changed := patch.overlay event
  if patch.isEmpty then .error .emptyPatch
  else if patch.title.any Text.isBlankText then .error .emptyTitle
  else if changed.startTime < changed.endTime then .ok changed
  else .error .invalidTimeRange

end Patch

end TeamCalendar
