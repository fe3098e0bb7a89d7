/-!
# Counters

What has happened since the start is counted in counters of 64 bits, which start again from zero
when they are full.
-/

namespace TeamCalendar

/-- The counters. -/
structure Tally where
  /-- Events created. -/
  eventsCreated : UInt64 := 0
  /-- Events changed. -/
  eventsUpdated : UInt64 := 0
  /-- Attendance records made for new events. -/
  attendanceRows : UInt64 := 0
  /-- Responses of users. -/
  attendanceResponses : UInt64 := 0
  /-- Attendees left out for want of a profile. -/
  profileMisses : UInt64 := 0
  /-- Calls of other services that failed. -/
  callFailures : UInt64 := 0
  /-- Storage operations that failed. -/
  storageErrors : UInt64 := 0
  deriving DecidableEq

/-- Something that is counted. -/
inductive Occurrence where
  /-- An event was created, with the given number of attendance records. -/
  | eventCreated (rows : Nat)
  /-- An event was changed. -/
  | eventUpdated
  /-- A user responded. -/
  | attendanceResponse
  /-- The given number of attendees was left out. -/
  | profileMisses (count : Nat)
  /-- A call of another service failed. -/
  | callFailure
  /-- A storage operation failed. -/
  | storageError
  deriving DecidableEq

namespace Tally

/-- Counts an occurrence. -/
def add (tally : Tally) : Occurrence → Tally
  | .eventCreated rows =>
    { tally with
      eventsCreated := tally.eventsCreated + 1
      attendanceRows := tally.attendanceRows + UInt64.ofNat rows }
  | .eventUpdated => { tally with eventsUpdated := tally.eventsUpdated + 1 }
  | .attendanceResponse => { tally with attendanceResponses := tally.attendanceResponses + 1 }
  | .profileMisses count =>
    { tally with profileMisses := tally.profileMisses + UInt64.ofNat count }
  | .callFailure => { tally with callFailures := tally.callFailures + 1 }
  | .storageError => { tally with storageErrors := tally.storageErrors + 1 }

/-- The counters under the names by which they are published. -/
def entries (tally : Tally) : List (String × UInt64) :=
  [("created", tally.eventsCreated),
   ("updated", tally.eventsUpdated),
   ("attendance_rows", tally.attendanceRows),
   ("attendance_responses", tally.attendanceResponses),
   ("profile_misses", tally.profileMisses),
   ("upstream_errors", tally.callFailures),
   ("storage_errors", tally.storageErrors)]

/-- The lines for one counter: its type, then its value. -/
def entryText (entry : String × UInt64) : String :=
  let name := s!"team_events_{entry.1}_total"
  s!"# TYPE {name} counter\n{name} {entry.2.toNat}\n"

/-- The published text of all counters. -/
def text (tally : Tally) : String :=
  String.join (tally.entries.map entryText)

end Tally

end TeamCalendar
