import TeamCalendar.Proofs.Soundness
import TeamCalendar.Proofs.Traffic

/-!
# What comes of requests one after another

Requests that are carried out one after another leave sound tables.  An event stays where it is once
it has been created, and in its team.  It has records for the users of the roster that was told when
it was created, and for no one else.

* `Tables.Lasts` says that events stay where they are, and `Entry.Effect.lasts` that each request
  has them stay.
* `Serial.cohort` says for whom there are records of an event.
-/

namespace TeamCalendar

/-- Every event of the first tables is there in the second ones, in the same team. -/
def Tables.Lasts (earlier later : Tables) : Prop :=
  ∀ (id : EventId) (event : Event), earlier.events[id]? = some event →
    ∃ event', later.events[id]? = some event' ∧ event'.teamId = event.teamId

namespace Tables.Lasts

theorem refl (tables : Tables) : tables.Lasts tables :=
  fun _ event hevent => ⟨event, hevent, rfl⟩

theorem trans {first second third : Tables} (h : first.Lasts second) (h' : second.Lasts third) :
    first.Lasts third := by
  intro id event hevent
  obtain ⟨event', hevent', hteam⟩ := h id event hevent
  obtain ⟨event'', hevent'', hteam'⟩ := h' id event' hevent'
  exact ⟨event'', hevent'', hteam'.trans hteam⟩

/-- An event that is put in place stands in nobody's way but that of an event of its team. -/
theorem putEvent {tables : Tables} {new : Event}
    (h : ∀ event, tables.events[new.id]? = some event → new.teamId = event.teamId) :
    tables.Lasts (tables.putEvent new) := by
  intro id event hevent
  rw [Tables.getElem?_events_putEvent]
  split
  · next hid =>
    subst hid
    exact ⟨new, rfl, h event hevent⟩
  · exact ⟨event, hevent, rfl⟩

end Tables.Lasts

/-- The users with records of an event are the given ones. -/
def Tables.AttendedBy (tables : Tables) (id : EventId) (userIds : List UserId) : Prop :=
  ∀ userId, (∃ record, tables.attendance[AttendanceKey.mk id userId]? = some record) ↔
    userId ∈ userIds

namespace Entry

variable {entry : Entry} {tables : Tables}

/-- An event is new if the next identifier is not in use. -/
theorem fresh_of_draw
    (h : ∀ new, entry.visit.operation = .create new →
      entry.lower.events[(entry.before.store.ids.draw : EventId × IdSource).1]? = none) :
    entry.Fresh := by
  intro created hreply
  have heffect := entry.effect
  generalize entry.upper = tables at heffect
  cases heffect with
  | none hidle =>
    cases hidle with
    | refused hrefused => cases hrefused.symm.trans hreply
    | read hoperation hread => cases hread.symm.trans hreply
    | listed hoperation hlisted => cases hlisted.symm.trans hreply
  | created hoperation hvalid hroster hcreated =>
    cases hcreated.symm.trans hreply
    exact h _ hoperation
  | updated hoperation hpatched hupdated => cases hupdated.symm.trans hreply
  | responded hoperation hevent hrecord hresponded => cases hresponded.symm.trans hreply

/-- No request removes an event or gives it to another team. -/
theorem Effect.lasts (heffect : entry.Effect tables) (hfresh : entry.Fresh)
    (hsound : entry.lower.Sound) : entry.lower.Lasts tables := by
  cases heffect with
  | none hidle => exact .refl _
  | created hoperation hvalid hroster hreply =>
    refine Tables.Lasts.putEvent fun event hevent => ?_
    have hnone := hfresh _ hreply
    rw [hevent] at hnone
    cases hnone
  | updated hoperation hpatched hreply =>
    cases hpatched with
    | changed hcurrent hteam hchanged =>
      obtain ⟨-, -, -, rfl⟩ := Patch.apply_eq_ok_iff.1 hchanged
      refine Tables.Lasts.putEvent fun event hevent => ?_
      rw [Patch.id_overlay, hsound.keyed _ _ hcurrent, hcurrent] at hevent
      cases hevent
      rfl
  | responded hoperation hevent hrecord hreply => exact .refl _

/-- An event that is stored after a request was stored before with records for the same users, or
has just been created, with records for the users of the roster. -/
theorem Effect.attendedBy (heffect : entry.Effect tables) (hfresh : entry.Fresh)
    (hsound : entry.lower.Sound) {id : EventId} {event : Event}
    (hevent : tables.events[id]? = some event) :
    ((∃ earlier, entry.lower.events[id]? = some earlier) ∧
        ∀ userIds, entry.lower.AttendedBy id userIds → tables.AttendedBy id userIds) ∨
      ∃ new roster, entry.visit.operation = .create new ∧
        (entry.before.store.ids.draw : EventId × IdSource).1 = id ∧
        (entry.collaborators.roster new.teamId).Gives entry.settings.deadline roster ∧
        tables.AttendedBy id (roster.map (·.userId)) := by
  cases heffect with
  | none hidle => exact .inl ⟨⟨event, hevent⟩, fun _ hattended => hattended⟩
  | @created new roster rows time hoperation hvalid hroster hreply =>
    rw [Tables.getElem?_events_putEvent] at hevent
    by_cases hid : (entry.before.store.newEvent new.normalized).id = id
    · refine .inr ⟨new, roster, hoperation, hid, hroster, fun userId => ?_⟩
      -- before, there were no records under an identifier that was not in use
      have hnone : entry.lower.attendance[AttendanceKey.mk id userId]? = Option.none := by
        refine Option.eq_none_iff_forall_ne_some.2 fun record hrecord => ?_
        obtain ⟨stored, hstored, -⟩ := hsound.anchored _ _ hrecord
        have habsent := hfresh _ hreply
        rw [hid, hstored] at habsent
        cases habsent
      rw [AttendanceRecord.getElem?_union_tabulate_cohort, hnone]
      constructor
      · rintro ⟨record, hrecord⟩
        split at hrecord
        · next hkey => exact hkey.2
        · cases hrecord
      · intro huser
        exact ⟨_, if_pos ⟨hid.symm, huser⟩⟩
    · rw [if_neg hid] at hevent
      refine .inl ⟨⟨event, hevent⟩, fun userIds hattended userId => ?_⟩
      rw [AttendanceRecord.getElem?_union_tabulate_cohort, if_neg fun hkey => hid hkey.1.symm]
      exact hattended userId
  | updated hoperation hpatched hreply =>
    cases hpatched with
    | changed hcurrent hteam hchanged =>
      obtain ⟨-, -, -, rfl⟩ := Patch.apply_eq_ok_iff.1 hchanged
      refine .inl ⟨?_, fun _ hattended => hattended⟩
      rw [Tables.getElem?_events_putEvent, Patch.id_overlay, hsound.keyed _ _ hcurrent] at hevent
      split at hevent
      · next hid =>
        subst hid
        exact ⟨_, hcurrent⟩
      · exact ⟨event, hevent⟩
  | @responded respondedId status found record time hoperation hfound hrecord hreply =>
    refine .inl ⟨⟨event, hevent⟩, fun userIds hattended userId => ?_⟩
    rw [← hattended userId, Table.getElem?_insert]
    split
    · next hkey =>
      rw [← hkey]
      exact ⟨fun _ => ⟨record, hrecord⟩, fun _ => ⟨_, rfl⟩⟩
    · exact Iff.rfl

end Entry

/-- A request has created the event with the given identifier, and has been told the given roster.
-/
def Landing.Creates (landing : Landing) (id : EventId) (roster : List Member) : Prop :=
  ∃ new, landing.visit.operation = .create new ∧ landing.eventId = id ∧
    (landing.visit.collaborators.roster new.teamId).Gives landing.visit.settings.deadline roster

/-- Records are about an event, one for each user of a roster. -/
structure AttendanceRecord.OneForEach (records : List AttendanceRecord) (id : EventId)
    (roster : List Member) : Prop where
  event : ∀ record ∈ records, record.eventId = id
  nodup : (records.map (·.userId)).Nodup
  users : ∀ userId, userId ∈ records.map (·.userId) ↔ userId ∈ roster.map (·.userId)

namespace Serial

variable {landed : List Landing} {tables : Tables}

/-- A request that has been carried out alone. -/
def entry {landing : Landing} {reply : Reply} {s' : Scene}
    (hcarried : (Scene.alone tables landing.ids).carryOut landing.visit = some (.ok reply, s')) :
    Entry where
  visit := landing.visit
  before := .alone tables landing.ids
  reply := .ok reply
  after := s'
  carried := hcarried

theorem fresh_entry {landing : Landing} {reply : Reply} {s' : Scene}
    (hfresh : ∀ new, landing.visit.operation = .create new →
      tables.events[landing.eventId]? = none)
    (hcarried : (Scene.alone tables landing.ids).carryOut landing.visit = some (.ok reply, s')) :
    (entry hcarried).Fresh :=
  Entry.fresh_of_draw hfresh

/-- Requests that are carried out one after another leave sound tables. -/
theorem sound (h : Serial landed tables) : tables.Sound := by
  induction h with
  | start => exact Tables.sound_empty
  | land h hfresh hcarried ih =>
    exact (entry hcarried).effect.sound (fresh_entry hfresh hcarried) ih

/-- The last one of the requests has every event stay. -/
theorem lasts {landing : Landing} {reply : Reply} {s' : Scene} (h : Serial landed tables)
    (hfresh : ∀ new, landing.visit.operation = .create new →
      tables.events[landing.eventId]? = none)
    (hcarried : (Scene.alone tables landing.ids).carryOut landing.visit = some (.ok reply, s')) :
    tables.Lasts s'.store.committed :=
  (entry hcarried).effect.lasts (fresh_entry hfresh hcarried) h.sound

/-- There are records of an event for the users of the roster that the request was told that created
it. -/
theorem cohort (h : Serial landed tables) {id : EventId} {event : Event}
    (hevent : tables.events[id]? = some event) :
    ∃ landing ∈ landed, ∃ roster, landing.Creates id roster ∧
      tables.AttendedBy id (roster.map (·.userId)) := by
  induction h generalizing event with
  | start =>
    rw [Std.ExtTreeMap.getElem?_empty] at hevent
    cases hevent
  | @land landed tables landing reply s' h hfresh hcarried ih =>
    have heffect := (entry hcarried).effect
    rcases heffect.attendedBy (fresh_entry hfresh hcarried) h.sound hevent with
      ⟨⟨earlier, hearlier⟩, hkept⟩ | ⟨new, roster, hoperation, hid, hroster, hattended⟩
    · obtain ⟨creating, hmem, roster, hcreates, hattended⟩ := ih hearlier
      exact ⟨creating, List.mem_cons_of_mem _ hmem, roster, hcreates, hkept _ hattended⟩
    · exact ⟨landing, List.mem_cons_self, roster, ⟨new, hoperation, hid, hroster⟩, hattended⟩

/-- The records that are listed of an event. -/
theorem listing (h : Serial landed tables) {id : EventId} {event : Event}
    (hevent : tables.events[id]? = some event) :
    ∃ landing ∈ landed, ∃ roster, landing.Creates id roster ∧
      AttendanceRecord.OneForEach (tables.eventAttendance id) id roster := by
  obtain ⟨landing, hmem, roster, hcreates, hattended⟩ := h.cohort hevent
  have hfiled := h.sound.filed
  have hperm : (tables.attendanceOf id).Perm (tables.eventAttendance id) := List.mergeSort_perm _ _
  refine ⟨landing, hmem, roster, hcreates, fun record hrecord => ?_, ?_, fun userId => ?_⟩
  · exact of_decide_eq_true (List.mem_filter.1 hrecord).2
  · exact (hperm.map _).nodup_iff.1 (Tables.nodup_attendanceOf hfiled id)
  · rw [← hattended userId, ← (hperm.map _).mem_iff, ← Tables.mem_userIds_attendanceOf hfiled,
      AttendanceRecord.userIds, List.mem_eraseDups]

end Serial

end TeamCalendar
