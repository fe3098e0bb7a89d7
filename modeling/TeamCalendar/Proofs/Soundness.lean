import TeamCalendar.Proofs.Proper
import TeamCalendar.Proofs.Run

/-!
# Soundness of the stored tables

The store checks little of what it is given.  That its tables are sound nevertheless rests on the
requests: new events are normalized and validated, patches are judged by the event that comes of
them, and records are made for the event that has just been written.

* `Tables.Stocked` says what is known of stored events, `Tables.Anchored` that there is an event for
  each record; both hold at the end of every run.
* `Tables.Sound` says all that is known of stored rows; it holds at the end of every run in which
  new events get identifiers that are not in use.
-/

namespace TeamCalendar

namespace Tables

/-- Each attendance record is about a stored event. -/
def Anchored (tables : Tables) : Prop :=
  ∀ (key : AttendanceKey) (record : AttendanceRecord), tables.attendance[key]? = some record →
    ∃ event, tables.events[key.eventId]? = some event

/-- What is known of stored events. -/
structure Stocked (tables : Tables) : Prop where
  keyed : tables.Keyed
  proper : ∀ (id : EventId) (event : Event), tables.events[id]? = some event →
    event.toNewEvent.Proper

/-- What is known of the rows of tables. -/
structure Sound (tables : Tables) : Prop where
  /-- Events are stored under their own identifiers. -/
  keyed : ∀ (id : EventId) (event : Event), tables.events[id]? = some event → event.id = id
  /-- Events are in normal form and have no flaw. -/
  proper : ∀ (id : EventId) (event : Event), tables.events[id]? = some event →
    event.toNewEvent.Proper
  /-- Records are stored under their own keys. -/
  filed : tables.Filed
  /-- Each record is about a stored event, and names its team. -/
  anchored : ∀ (key : AttendanceKey) (record : AttendanceRecord),
    tables.attendance[key]? = some record →
    ∃ event, tables.events[key.eventId]? = some event ∧ event.teamId = record.teamId

theorem anchored_empty : Anchored {} := by
  intro key record hrecord
  rw [Std.ExtTreeMap.getElem?_empty] at hrecord
  cases hrecord

theorem stocked_empty : Stocked {} := by
  refine ⟨?_, ?_⟩
  all_goals
    intro id event hevent
    rw [Std.ExtTreeMap.getElem?_empty] at hevent
    cases hevent

theorem sound_empty : Sound {} := by
  refine ⟨?_, ?_, ?_, ?_⟩
  all_goals
    intro key row hrow
    rw [Std.ExtTreeMap.getElem?_empty] at hrow
    cases hrow

theorem Sound.stocked {tables : Tables} (h : tables.Sound) : tables.Stocked :=
  ⟨h.keyed, h.proper⟩

theorem Keyed.putEvent {tables : Tables} (h : tables.Keyed) (event : Event) :
    (tables.putEvent event).Keyed := by
  intro id stored hstored
  rw [getElem?_events_putEvent] at hstored
  split at hstored
  · next hid =>
    cases hstored
    exact hid
  · exact h id stored hstored

theorem Stocked.putEvent {tables : Tables} {event : Event} (h : tables.Stocked)
    (hproper : event.toNewEvent.Proper) : (tables.putEvent event).Stocked where
  keyed := h.keyed.putEvent event
  proper id stored hstored := by
    rw [getElem?_events_putEvent] at hstored
    split at hstored
    · cases hstored
      exact hproper
    · exact h.proper id stored hstored

/-- An event that is found stays there when another one is put in place. -/
theorem exists_event_putEvent {tables : Tables} {id : EventId} (event : Event)
    (h : ∃ stored, tables.events[id]? = some stored) :
    ∃ stored, (tables.putEvent event).events[id]? = some stored := by
  rw [getElem?_events_putEvent]
  split
  · exact ⟨event, rfl⟩
  · exact h

section Cohort

variable {tables : Tables} {event : Event} {roster : List Member} {now : Instant}

theorem Anchored.putCohort (h : tables.Anchored) :
    Anchored
      { tables.putEvent event with
        attendance := tables.attendance ∪ AttendanceRecord.tabulate
          (AttendanceRecord.cohort event roster now) } := by
  intro key record hrecord
  rw [AttendanceRecord.getElem?_union_tabulate_cohort] at hrecord
  split at hrecord
  · next hkey =>
    refine ⟨event, ?_⟩
    rw [getElem?_events_putEvent, if_pos hkey.1.symm]
  · exact exists_event_putEvent event (h key record hrecord)

/-- A new event is put in place with its records. -/
theorem Sound.putCohort (h : tables.Sound) (hproper : event.toNewEvent.Proper)
    (hfresh : tables.events[event.id]? = none) :
    Sound
      { tables.putEvent event with
        attendance := tables.attendance ∪ AttendanceRecord.tabulate
          (AttendanceRecord.cohort event roster now) } where
  keyed := (h.stocked.putEvent hproper).keyed
  proper := (h.stocked.putEvent hproper).proper
  filed key record hrecord := by
    rw [AttendanceRecord.getElem?_union_tabulate_cohort] at hrecord
    split at hrecord
    · next hkey =>
      cases hrecord
      rw [AttendanceRecord.key, AttendanceRecord.pending, ← hkey.1]
    · exact h.filed key record hrecord
  anchored key record hrecord := by
    rw [AttendanceRecord.getElem?_union_tabulate_cohort] at hrecord
    split at hrecord
    · next hkey =>
      cases hrecord
      refine ⟨event, ?_, rfl⟩
      rw [getElem?_events_putEvent, if_pos hkey.1.symm]
    · obtain ⟨stored, hstored, hteam⟩ := h.anchored key record hrecord
      -- the stored event is another one, for the identifier of the new one was not in use
      have hne : event.id ≠ key.eventId := by
        intro hid
        rw [hid, hstored] at hfresh
        cases hfresh
      refine ⟨stored, ?_, hteam⟩
      rw [getElem?_events_putEvent, if_neg hne]
      exact hstored

end Cohort

section Event

variable {tables : Tables} {current changed : Event}

/-- A changed event takes the place of the old one. -/
theorem Sound.putEvent (h : tables.Sound)
    (hcurrent : tables.events[changed.id]? = some current)
    (hteam : changed.teamId = current.teamId) (hproper : changed.toNewEvent.Proper) :
    (tables.putEvent changed).Sound where
  keyed := (h.stocked.putEvent hproper).keyed
  proper := (h.stocked.putEvent hproper).proper
  filed := h.filed
  anchored key record hrecord := by
    obtain ⟨stored, hstored, hrecordTeam⟩ := h.anchored key record hrecord
    rw [getElem?_events_putEvent]
    split
    · next hid =>
      rw [← hid, hcurrent, Option.some.injEq] at hstored
      refine ⟨changed, rfl, ?_⟩
      rw [hteam, hstored, hrecordTeam]
    · exact ⟨stored, hstored, hrecordTeam⟩

end Event

section Record

variable {tables : Tables} {key : AttendanceKey} {record changed : AttendanceRecord}

theorem Anchored.putRecord (h : tables.Anchored)
    (hrecord : tables.attendance[key]? = some record) :
    Anchored { tables with attendance := tables.attendance.insert key changed } := by
  intro other row hrow
  rw [Table.getElem?_insert] at hrow
  split at hrow
  · next hkey =>
    rw [← hkey]
    exact h key record hrecord
  · exact h other row hrow

/-- A changed record takes the place of the old one. -/
theorem Sound.putRecord (h : tables.Sound) (hrecord : tables.attendance[key]? = some record)
    (hkey : changed.key = record.key) (hteam : changed.teamId = record.teamId) :
    Sound { tables with attendance := tables.attendance.insert key changed } where
  keyed := h.keyed
  proper := h.proper
  filed other row hrow := by
    rw [Table.getElem?_insert] at hrow
    split at hrow
    · next heq =>
      cases hrow
      rw [hkey, h.filed key record hrecord, heq]
    · exact h.filed other row hrow
  anchored other row hrow := by
    rw [Table.getElem?_insert] at hrow
    split at hrow
    · next heq =>
      cases hrow
      obtain ⟨event, hevent, heventTeam⟩ := h.anchored key record hrecord
      refine ⟨event, ?_, ?_⟩
      · rw [← heq]
        exact hevent
      · rw [heventTeam, hteam]
    · exact h.anchored other row hrow

end Record

end Tables

namespace Entry

variable {entry : Entry} {tables : Tables}

theorem Effect.anchored (heffect : entry.Effect tables) (h : entry.lower.Anchored) :
    tables.Anchored := by
  cases heffect with
  | none hidle => exact h
  | created hoperation hvalid hroster hreply => exact h.putCohort
  | updated hoperation hpatched hreply =>
    intro key record hrecord
    exact Tables.exists_event_putEvent _ (h key record hrecord)
  | responded hoperation hevent hrecord hreply => exact h.putRecord hrecord

theorem Effect.stocked (heffect : entry.Effect tables) (h : entry.lower.Stocked) :
    tables.Stocked := by
  cases heffect with
  | none hidle => exact h
  | created hoperation hvalid hroster hreply =>
    have hstocked : (entry.lower.putEvent (entry.before.store.newEvent _)).Stocked :=
      h.putEvent (NewEvent.proper_normalized hvalid)
    exact ⟨hstocked.keyed, hstocked.proper⟩
  | updated hoperation hpatched hreply =>
    cases hpatched with
    | changed hcurrent hteam hchanged =>
      exact h.putEvent (Patch.proper_of_apply (h.proper _ _ hcurrent) hchanged)
  | responded hoperation hevent hrecord hreply => exact ⟨h.keyed, h.proper⟩

theorem Effect.sound (heffect : entry.Effect tables) (hfresh : entry.Fresh)
    (h : entry.lower.Sound) : tables.Sound := by
  cases heffect with
  | none hidle => exact h
  | created hoperation hvalid hroster hreply =>
    exact h.putCohort (NewEvent.proper_normalized hvalid) (hfresh _ hreply)
  | updated hoperation hpatched hreply =>
    cases hpatched with
    | changed hcurrent hteam hchanged =>
      have hproper := Patch.proper_of_apply (h.proper _ _ hcurrent) hchanged
      obtain ⟨-, -, -, rfl⟩ := Patch.apply_eq_ok_iff.1 hchanged
      have hstored := hcurrent
      rw [← h.keyed _ _ hcurrent] at hstored
      exact h.putEvent hstored rfl hproper
  | responded hoperation hevent hrecord hreply => exact h.putRecord hrecord rfl rfl

end Entry

namespace Run

variable {log : List Entry} {s : Scene}

/-- Stored events are sound, whatever identifiers new events have got. -/
theorem stocked (hrun : Run log s) : s.store.committed.Stocked :=
  hrun.invariant (I := fun _ tables => tables.Stocked) Tables.stocked_empty
    fun _ h heffect => heffect.stocked h

/-- Each attendance record is about a stored event. -/
theorem anchored (hrun : Run log s) : s.store.committed.Anchored :=
  hrun.invariant (I := fun _ tables => tables.Anchored) Tables.anchored_empty
    fun _ h heffect => heffect.anchored h

/-- The tables are sound if new events have got identifiers that were not in use. -/
theorem sound (hrun : Run log s) (hfresh : ∀ entry ∈ log, entry.Fresh) :
    s.store.committed.Sound := by
  refine hrun.invariant (I := fun log tables => (∀ entry ∈ log, entry.Fresh) → tables.Sound)
    (fun _ => Tables.sound_empty) ?_ hfresh
  intro log entry h heffect hall
  rw [List.forall_mem_cons] at hall
  exact heffect.sound hall.1 (h hall.2)

/-- After any requests, in any order and among any collaborators, each stored event is under its own
identifier, in normal form and without a flaw, and each attendance record is under its own key and
about a stored event of its team. -/
theorem rows_wellFormed (hrun : Run log s) (hfresh : ∀ entry ∈ log, entry.Fresh) :
    (∀ (id : EventId) (event : Event), s.store.committed.events[id]? = some event →
      event.id = id ∧ event.teamId ≠ .nil ∧ Text.isBlankText event.title = false ∧
      Text.isBlankText event.eventType = false ∧
      event.eventType = Text.lower (Text.trim event.eventType) ∧
      event.startTime < event.endTime ∧
      event.startTime.nano % 1000 = 0 ∧ event.endTime.nano % 1000 = 0) ∧
    ∀ (key : AttendanceKey) (record : AttendanceRecord),
      s.store.committed.attendance[key]? = some record →
      record.eventId = key.eventId ∧ record.userId = key.userId ∧
      ∃ event, s.store.committed.events[record.eventId]? = some event ∧
        record.teamId = event.teamId := by
  have hsound := hrun.sound hfresh
  constructor
  · intro id event hevent
    have hproper := hsound.proper id event hevent
    exact ⟨hsound.keyed id event hevent, hproper.team, hproper.title, hproper.eventType,
      hproper.normal.symm, hproper.ordered, hproper.startWhole, hproper.endWhole⟩
  · intro key record hrecord
    have hkey : record.key = key := hsound.filed key record hrecord
    obtain ⟨event, hevent, hteam⟩ := hsound.anchored key record hrecord
    subst hkey
    exact ⟨rfl, rfl, event, hevent, hteam.symm⟩

/-- An event that has been created, responded to and changed is stored in normal form. -/
theorem rows_wellFormed_sample :
    ∃ event, Sample.change.after.store.committed.events[Sample.trainingId]? = some event ∧
      event.startTime.second = 1800 ∧ event.eventType = Text.lower (Text.trim event.eventType) ∧
      event.startTime.nano % 1000 = 0 := by
  have hrows := (rows_wellFormed Sample.run_log Sample.fresh_log).1
  refine ⟨_, rfl, rfl, ?_⟩
  obtain ⟨-, -, -, -, hnormal, -, hwhole, -⟩ := hrows Sample.trainingId _ rfl
  exact ⟨hnormal, hwhole⟩

end Run

end TeamCalendar
