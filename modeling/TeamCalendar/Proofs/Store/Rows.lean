import TeamCalendar.Proofs.Sorting

/-!
# The rows of tables

The attendance records that are listed for an event are those that are found under its identifier,
each once and by user, provided that all records are stored under their own keys.  The events that
are listed for a team are those of the team that are found, each once and by start.
-/

namespace TeamCalendar

namespace Table

variable {κ ν : Type} [Ord κ] [Std.TransOrd κ]

/-- The rows of a table are those that belong to its keys. -/
theorem values_eq_map_toList (table : Table κ ν) : table.values = table.toList.map (·.2) := by
  obtain ⟨table⟩ := table
  induction table using Std.ExtDTreeMap.inductionOn with
  | _ table =>
    change table.inner.values = List.map _ (Std.DTreeMap.Internal.Impl.Const.toList table.inner)
    rw [Std.DTreeMap.Internal.Impl.values_eq_map_snd,
      Std.DTreeMap.Internal.Impl.Const.toList_eq_toListModel_map, List.map_map]
    rfl

theorem length_values (table : Table κ ν) : table.values.length = table.size := by
  rw [values_eq_map_toList, List.length_map, Std.ExtTreeMap.length_toList]

variable [Std.LawfulEqOrd κ] {table : Table κ ν}

theorem mem_values {row : ν} : row ∈ table.values ↔ ∃ key : κ, table[key]? = some row := by
  rw [values_eq_map_toList, List.mem_map]
  constructor
  · rintro ⟨⟨key, row⟩, hmem, rfl⟩
    exact ⟨key, Std.ExtTreeMap.mem_toList_iff_getElem?_eq_some.1 hmem⟩
  · rintro ⟨key, hrow⟩
    exact ⟨(key, row), Std.ExtTreeMap.mem_toList_iff_getElem?_eq_some.2 hrow, rfl⟩

/-- The rows are those that are found under their own keys, if no row is under another one. -/
theorem mem_values_iff {keyOf : ν → κ}
    (hkey : ∀ (key : κ) (row : ν), table[key]? = some row → keyOf row = key) {row : ν} :
    row ∈ table.values ↔ table[keyOf row]? = some row := by
  rw [mem_values]
  constructor
  · rintro ⟨key, hrow⟩
    rw [hkey key row hrow]
    exact hrow
  · intro hrow
    exact ⟨_, hrow⟩

/-- The rows are in the order of their keys. -/
theorem pairwise_map_values {keyOf : ν → κ}
    (hkey : ∀ (key : κ) (row : ν), table[key]? = some row → keyOf row = key) :
    (table.values.map keyOf).Pairwise fun a b => compare a b = .lt := by
  rw [values_eq_map_toList, List.map_map, List.pairwise_map]
  refine (Std.ExtTreeMap.ordered_keys_toList (t := table)).imp_of_mem ?_
  rintro ⟨key, row⟩ ⟨other, otherRow⟩ hmem hother hlt
  rw [Std.ExtTreeMap.mem_toList_iff_getElem?_eq_some] at hmem hother
  rw [Function.comp_apply, Function.comp_apply, hkey key row hmem, hkey other otherRow hother]
  exact hlt

/-- No two rows have the same key. -/
theorem nodup_map_values {keyOf : ν → κ}
    (hkey : ∀ (key : κ) (row : ν), table[key]? = some row → keyOf row = key) :
    (table.values.map keyOf).Nodup := by
  refine (pairwise_map_values hkey).imp ?_
  rintro a b hlt rfl
  rw [Std.ReflOrd.compare_self] at hlt
  cases hlt

end Table

namespace Tables

variable {tables : Tables} {id : EventId}

/-- The attendance records of an event, by user. -/
def attendanceOf (tables : Tables) (id : EventId) : List AttendanceRecord :=
  AttendanceRecord.sorted (tables.eventAttendance id)

/-- Events are stored under their own identifiers. -/
def Keyed (tables : Tables) : Prop :=
  ∀ (id : EventId) (event : Event), tables.events[id]? = some event → event.id = id

/-- Attendance records are stored under their own keys. -/
def Filed (tables : Tables) : Prop :=
  ∀ (key : AttendanceKey) (record : AttendanceRecord), tables.attendance[key]? = some record →
    record.key = key

/-- The records of an event are those that are found under its identifier. -/
theorem mem_eventAttendance (hfiled : tables.Filed) {record : AttendanceRecord} :
    record ∈ tables.eventAttendance id ↔
      record.eventId = id ∧ tables.attendance[record.key]? = some record := by
  rw [eventAttendance, List.mem_filter, decide_eq_true_iff, Table.mem_values_iff hfiled, and_comm]

/-- The records of an event are in the order of their users. -/
theorem Filed.pairwise_eventAttendance (hfiled : tables.Filed) (id : EventId) :
    (tables.eventAttendance id).Pairwise (·.userId.bits < ·.userId.bits) := by
  have hkeys := List.pairwise_map.1 (Table.pairwise_map_values hfiled)
  refine (hkeys.filter _).imp_of_mem ?_
  intro a b ha hb hlt
  have haEvent := (List.mem_filter.1 ha).2
  have hbEvent := (List.mem_filter.1 hb).2
  rw [decide_eq_true_iff] at haEvent hbEvent
  have huser : compare a.key b.key = compare a.userId b.userId := by
    rw [AttendanceKey.compare_eq, compareLex, compareOn, AttendanceRecord.key,
      AttendanceRecord.key, haEvent, hbEvent, Std.ReflOrd.compare_self]
    rfl
  rwa [huser, Id.compare_eq_lt_iff] at hlt

theorem mem_attendanceOf (hfiled : tables.Filed) {record : AttendanceRecord} :
    record ∈ tables.attendanceOf id ↔
      tables.attendance[AttendanceKey.mk id record.userId]? = some record := by
  rw [attendanceOf, AttendanceRecord.sorted, List.mem_mergeSort, mem_eventAttendance hfiled]
  constructor
  · rintro ⟨rfl, hrecord⟩
    exact hrecord
  · intro hrecord
    have hkey := hfiled _ _ hrecord
    rw [← hkey] at hrecord
    exact ⟨congrArg AttendanceKey.eventId hkey, hrecord⟩

/-- No user has two records for an event. -/
theorem nodup_attendanceOf (hfiled : tables.Filed) (id : EventId) :
    ((tables.attendanceOf id).map (·.userId)).Nodup := by
  have hperm : (tables.attendanceOf id).Perm (tables.eventAttendance id) :=
    List.mergeSort_perm _ _
  refine (hperm.map _).nodup_iff.2 ?_
  rw [List.Nodup, List.pairwise_map]
  refine (hfiled.pairwise_eventAttendance id).imp ?_
  intro a b hlt heq
  rw [heq] at hlt
  exact BitVec.lt_irrefl _ hlt

/-- The users with a record for an event. -/
theorem mem_userIds_attendanceOf (hfiled : tables.Filed) {userId : UserId} :
    userId ∈ AttendanceRecord.userIds (tables.attendanceOf id) ↔
      ∃ record, tables.attendance[AttendanceKey.mk id userId]? = some record := by
  rw [AttendanceRecord.userIds, List.mem_eraseDups, List.mem_map]
  constructor
  · rintro ⟨record, hmem, rfl⟩
    exact ⟨record, (mem_attendanceOf hfiled).1 hmem⟩
  · rintro ⟨record, hrecord⟩
    have huser : record.userId = userId := congrArg AttendanceKey.userId (hfiled _ _ hrecord)
    subst huser
    exact ⟨record, (mem_attendanceOf hfiled).2 hrecord, rfl⟩

/-- The attendees of an event are the users with a record whose profile is known, with the statuses
of their records. -/
theorem mem_filterMap_attendee? (hfiled : tables.Filed) {profiles : Profiles}
    {attendee : Attendee} :
    attendee ∈ (tables.attendanceOf id).filterMap (·.attendee? profiles) ↔
      profiles[attendee.userId]? = some attendee.profile ∧
      (tables.attendance[AttendanceKey.mk id attendee.userId]?).map (·.status) =
        some attendee.status := by
  rw [List.mem_filterMap]
  constructor
  · rintro ⟨record, hmem, hattendee⟩
    obtain ⟨profile, hprofile, rfl⟩ := Option.map_eq_some_iff.1 hattendee
    exact ⟨hprofile, by rw [(mem_attendanceOf hfiled).1 hmem]; rfl⟩
  · rintro ⟨hprofile, hstatus⟩
    obtain ⟨record, hrecord, hstatus⟩ := Option.map_eq_some_iff.1 hstatus
    have huser : record.userId = attendee.userId :=
      congrArg AttendanceKey.userId (hfiled _ _ hrecord)
    rw [← huser] at hprofile hrecord
    refine ⟨record, (mem_attendanceOf hfiled).2 hrecord, ?_⟩
    rw [AttendanceRecord.attendee?, hprofile, Option.map_some, huser, hstatus]

/-- No user attends an event twice. -/
theorem nodup_filterMap_attendee? (hfiled : tables.Filed) (id : EventId) (profiles : Profiles) :
    (((tables.attendanceOf id).filterMap (·.attendee? profiles)).map (·.userId)).Nodup := by
  have hnodup := nodup_attendanceOf hfiled id
  rw [List.Nodup, List.pairwise_map] at hnodup ⊢
  refine hnodup.filterMap _ ?_
  intro a b hne attendee hattendee other hother
  obtain ⟨_, -, rfl⟩ := Option.map_eq_some_iff.1 hattendee
  obtain ⟨_, -, rfl⟩ := Option.map_eq_some_iff.1 hother
  exact hne

/-! ## The events of a team -/

section Team

variable {teamId : TeamId}

theorem mem_teamEvents {event : Event} :
    event ∈ tables.teamEvents teamId ↔
      event.teamId = teamId ∧ ∃ id : EventId, tables.events[id]? = some event := by
  rw [teamEvents, Event.sorted, List.mem_mergeSort, List.mem_filter, decide_eq_true_iff,
    Table.mem_values, and_comm]

/-- The events of a team in some order, with different identifiers. -/
theorem Keyed.nodup_id_filter (h : tables.Keyed) {rows : List Event}
    (hperm : rows.Perm tables.events.values) :
    ((rows.filter (·.teamId = teamId)).map (·.id)).Nodup := by
  have hnodup : (tables.events.values.map (·.id)).Nodup := Table.nodup_map_values h
  exact ((hperm.map _).nodup_iff.2 hnodup).sublist (List.filter_sublist.map _)

/-- The order in which stored events are gone through makes no difference. -/
theorem Keyed.sorted_filter (h : tables.Keyed) {rows : List Event}
    (hperm : rows.Perm tables.events.values) :
    Event.sorted (rows.filter (·.teamId = teamId)) = tables.teamEvents teamId :=
  Event.sorted_eq_of_perm (h.nodup_id_filter hperm) (hperm.filter _)

theorem Keyed.pairwise_before_teamEvents (h : tables.Keyed) :
    (tables.teamEvents teamId).Pairwise Event.Before :=
  Event.pairwise_before_sorted (h.nodup_id_filter (List.Perm.refl _))

end Team

end Tables

end TeamCalendar
