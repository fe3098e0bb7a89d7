import TeamCalendar.Proofs.Store.Copying
import TeamCalendar.Proofs.Store.Rows

/-!
# A store that copies, row by row

What a store that copies its tables does to them, and what it tells of them, is said here by what is
found under each key.

* `CopyingStore.WorksOn` says what comes of the calls of a transaction, and `CopyingStore.worksOn`
  that it does in every transaction.
* `CopyingStore.Tells` says what is told from outside of a transaction, and `CopyingStore.tells` that
  it is if the rows are under their own keys.
-/

namespace TeamCalendar

namespace Tables

variable {tables : Tables}

/-- One event has been put in place, and nothing else has changed. -/
structure EventPut (before : Tables) (event : Event) (after : Tables) : Prop where
  found : after.events[event.id]? = some event
  others : ∀ id, id ≠ event.id → after.events[id]? = before.events[id]?
  attendance : ∀ key : AttendanceKey, after.attendance[key]? = before.attendance[key]?

/-- One attendance record has been put in place, and nothing else has changed. -/
structure RecordPut (before : Tables) (key : AttendanceKey) (record : AttendanceRecord)
    (after : Tables) : Prop where
  found : after.attendance[key]? = some record
  others : ∀ other, other ≠ key → after.attendance[other]? = before.attendance[other]?
  events : ∀ id : EventId, after.events[id]? = before.events[id]?

theorem eventPut_putEvent (tables : Tables) (event : Event) :
    tables.EventPut event (tables.putEvent event) where
  found := by rw [getElem?_events_putEvent, if_pos rfl]
  others id hid := by rw [getElem?_events_putEvent, if_neg hid.symm]
  attendance key := rfl

theorem recordPut_insert (tables : Tables) (key : AttendanceKey) (record : AttendanceRecord) :
    tables.RecordPut key record
      { tables with attendance := tables.attendance.insert key record } where
  found := by rw [Table.getElem?_insert, if_pos rfl]
  others other hother := by rw [Table.getElem?_insert, if_neg hother.symm]
  events id := rfl

/-- There is an event to be replaced: one with the same identifier and the same team. -/
def Replaceable (tables : Tables) (event : Event) : Prop :=
  ∃ current, tables.events[event.id]? = some current ∧ current.teamId = event.teamId

theorem replaceEvent?_of_replaceable {event : Event} (h : tables.Replaceable event) :
    tables.replaceEvent? event = some (tables.putEvent event) := by
  obtain ⟨current, hcurrent, hteam⟩ := h
  rw [replaceEvent?, hcurrent, Option.bind_some, if_pos hteam]

theorem replaceEvent?_eq_none {event : Event} (h : ¬ tables.Replaceable event) :
    tables.replaceEvent? event = none := by
  rw [replaceEvent?]
  cases hcurrent : tables.events[event.id]? with
  | none => rfl
  | some current =>
    rw [Option.bind_some, if_neg]
    intro hteam
    exact h ⟨current, hcurrent, hteam⟩

end Tables

namespace CopyingStore

variable {store : CopyingStore} {copy : Tables}

/-- What comes of the calls of a transaction that works on a copy. -/
structure WorksOn (store : CopyingStore) (copy : Tables) : Prop where
  /-- A new event is put in place under the next identifier. -/
  insertEvent : ∀ new : NewEvent, ∃ (event : Event) (ids : IdSource) (written : Tables),
    serve (.ask (.insertEvent new)) store =
      some (.ok event, { store with ids, copy? := some written }) ∧
    store.ids.draw = (event.id, ids) ∧ event.toNewEvent = new ∧ copy.EventPut event written
  lockEvent : ∀ id : EventId,
    serve (.ask (.lockEvent id)) store = some (.ok copy.events[id]?, store)
  /-- An event takes the place of the one that is there, if there is one. -/
  updateEvent : ∀ event : Event, copy.Replaceable event → ∃ written : Tables,
    serve (.ask (.updateEvent event)) store =
      some (.ok true, { store with copy? := some written }) ∧
    copy.EventPut event written
  updateEvent_absent : ∀ event : Event, ¬ copy.Replaceable event →
    serve (.ask (.updateEvent event)) store = some (.ok false, store)
  /-- A record that is there gets the status, and says since when it has it. -/
  updateStatus : ∀ (eventId : EventId) (userId : UserId) (status : Status) (now : Instant)
    (record : AttendanceRecord), copy.attendance[AttendanceKey.mk eventId userId]? = some record →
    ∃ written : Tables,
      serve (.ask (.updateStatus eventId userId status now)) store =
        some (.ok true, { store with copy? := some written }) ∧
      copy.RecordPut ⟨eventId, userId⟩ { record with status, updatedAt := now } written
  updateStatus_absent : ∀ (eventId : EventId) (userId : UserId) (status : Status) (now : Instant),
    copy.attendance[AttendanceKey.mk eventId userId]? = none →
    serve (.ask (.updateStatus eventId userId status now)) store = some (.ok false, store)
  /-- The copy takes the place of the tables. -/
  commit : serve (.ask .commit) store = some (.ok (), { store with tables := copy, copy? := none })
  /-- The copy is forgotten. -/
  rollback : serve (.ask .rollback) store = some ((), { store with copy? := none })

/-- Every transaction works on its copy. -/
theorem worksOn (hcopy : store.copy? = some copy) : store.WorksOn copy where
  insertEvent new := by
    refine ⟨{ new with id := store.ids.draw.1 }, _, _, ?_, rfl, rfl, copy.eventPut_putEvent _⟩
    simp only [serve, reply?, withCopy, hcopy]
    rfl
  lockEvent id := by
    simp only [serve, reply?, withCopy, hcopy]
    rfl
  updateEvent event hcurrent := by
    refine ⟨_, ?_, copy.eventPut_putEvent event⟩
    simp only [serve, reply?, withCopy, hcopy, Tables.replaceEvent?_of_replaceable hcurrent]
    rfl
  updateEvent_absent event habsent := by
    simp only [serve, reply?, withCopy, hcopy, Tables.replaceEvent?_eq_none habsent]
    rfl
  updateStatus eventId userId status now record hrecord := by
    refine ⟨_, ?_, copy.recordPut_insert _ _⟩
    simp only [serve, reply?, withCopy, hcopy, Tables.putStatus?, hrecord, Option.map_some]
    rfl
  updateStatus_absent eventId userId status now habsent := by
    simp only [serve, reply?, withCopy, hcopy, Tables.putStatus?, habsent, Option.map_none]
    rfl
  commit := by
    simp only [serve, reply?, withCopy, hcopy]
    rfl
  rollback := rfl

/-- What is told of the tables from outside of a transaction, which changes nothing. -/
structure Tells (store : CopyingStore) : Prop where
  findEvent : ∀ id : EventId,
    serve (.ask (.findEvent id)) store = some (.ok store.tables.events[id]?, store)
  /-- The events of a team are listed by start, and those that start together by identifier. -/
  teamEvents : ∀ teamId : TeamId, ∃ events : List Event,
    serve (.ask (.listTeamEvents teamId)) store = some (.ok events, store) ∧
    serve (.teamEventCount teamId) store = some (events.length, store) ∧
    (∀ event, event ∈ events ↔
      event.teamId = teamId ∧ store.tables.events[event.id]? = some event) ∧
    events.Pairwise Event.Before
  /-- The records of an event are listed by user. -/
  attendance : ∀ id : EventId, ∃ records : List AttendanceRecord,
    serve (.ask (.listAttendance id)) store = some (.ok records, store) ∧
    (∀ record, record ∈ records ↔
      record.eventId = id ∧ store.tables.attendance[record.key]? = some record) ∧
    records.Pairwise (·.userId.bits < ·.userId.bits)
  /-- All events are counted. -/
  eventCount : ∃ events : List Event,
    serve .eventCount store = some (events.length, store) ∧
    (∀ event, event ∈ events ↔ store.tables.events[event.id]? = some event) ∧
    (events.map (·.id)).Nodup
  /-- All records are counted. -/
  attendanceCount : ∃ records : List AttendanceRecord,
    serve .attendanceCount store = some (records.length, store) ∧
    (∀ record, record ∈ records ↔ store.tables.attendance[record.key]? = some record) ∧
    (records.map (·.key)).Nodup

/-- A store whose rows are under their own keys tells of its tables. -/
theorem tells (hkeyed : store.tables.Keyed) (hfiled : store.tables.Filed) : store.Tells where
  findEvent id := rfl
  teamEvents teamId := by
    refine ⟨store.tables.teamEvents teamId, rfl, ?_, ?_, hkeyed.pairwise_before_teamEvents⟩
    · rw [Tables.teamEvents, Event.sorted, List.length_mergeSort]
      rfl
    · intro event
      rw [Tables.mem_teamEvents, ← Table.mem_values, Table.mem_values_iff hkeyed]
  attendance id :=
    ⟨store.tables.eventAttendance id, rfl, fun _ => Tables.mem_eventAttendance hfiled,
      hfiled.pairwise_eventAttendance id⟩
  eventCount := by
    refine ⟨store.tables.events.values, ?_, fun _ => Table.mem_values_iff hkeyed,
      Table.nodup_map_values hkeyed⟩
    rw [Table.length_values]
    rfl
  attendanceCount := by
    refine ⟨store.tables.attendance.values, ?_, fun _ => Table.mem_values_iff hfiled,
      Table.nodup_map_values hfiled⟩
    rw [Table.length_values]
    rfl

end CopyingStore

end TeamCalendar
