import Std.Data.ExtTreeMap
import TeamCalendar.Attendance

/-!
# Tables

Events by their identifiers and attendance records by event and user.  `Tables.overlay` puts rows over
those of other tables: a row of the upper tables hides the row of the lower ones with its key.
-/

namespace TeamCalendar

/-- The key of an attendance record. -/
structure AttendanceKey where
  /-- The event. -/
  eventId : EventId
  /-- The user. -/
  userId : UserId
  deriving DecidableEq

namespace AttendanceKey

/-- The keys are ordered by event, then by user. -/
instance : Ord AttendanceKey where
  compare := compareLex (compareOn eventId) (compareOn userId)

theorem compare_eq (a b : AttendanceKey) :
    compare a b = compareLex (compareOn eventId) (compareOn userId) a b :=
  rfl

instance : Std.TransOrd AttendanceKey :=
  inferInstanceAs (Std.TransCmp (compareLex (compareOn eventId) (compareOn userId)))

instance : Std.LawfulEqOrd AttendanceKey where
  eq_of_compare {a b} h := by
    rw [compare_eq, compareLex_eq_eq] at h
    cases a
    cases b
    congr
    · exact Std.LawfulEqOrd.eq_of_compare h.1
    · exact Std.LawfulEqOrd.eq_of_compare h.2

end AttendanceKey

/-- The key of an attendance record. -/
def AttendanceRecord.key (record : AttendanceRecord) : AttendanceKey :=
  ⟨record.eventId, record.userId⟩

/-- A table of rows by key. -/
abbrev Table (κ ν : Type) [Ord κ] :=
  Std.ExtTreeMap κ ν compare

/-- Events and attendance. -/
structure Tables where
  /-- The events. -/
  events : Table EventId Event := ∅
  /-- The attendance records. -/
  attendance : Table AttendanceKey AttendanceRecord := ∅

namespace Tables

/-- Puts the rows of other tables over those of these. -/
def overlay (lower upper : Tables) : Tables where
  events := lower.events ∪ upper.events
  attendance := lower.attendance ∪ upper.attendance

/-- Puts one event in place. -/
def putEvent (tables : Tables) (event : Event) : Tables :=
  { tables with events := tables.events.insert event.id event }

/-- The events of a team, by their starts. -/
def teamEvents (tables : Tables) (teamId : TeamId) : List Event :=
  Event.sorted (tables.events.values.filter (·.teamId = teamId))

/-- The attendance records of an event, by user. -/
def eventAttendance (tables : Tables) (eventId : EventId) : List AttendanceRecord :=
  tables.attendance.values.filter (·.eventId = eventId)

@[simp]
theorem getElem?_events_overlay (lower upper : Tables) (id : EventId) :
    (lower.overlay upper).events[id]? = (upper.events[id]?).or lower.events[id]? :=
  Std.ExtTreeMap.getElem?_union

@[simp]
theorem getElem?_attendance_overlay (lower upper : Tables) (key : AttendanceKey) :
    (lower.overlay upper).attendance[key]? =
      (upper.attendance[key]?).or lower.attendance[key]? :=
  Std.ExtTreeMap.getElem?_union

end Tables

end TeamCalendar
