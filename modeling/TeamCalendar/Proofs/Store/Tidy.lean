import TeamCalendar.Proofs.Soundness
import TeamCalendar.Proofs.Store.Staging

/-!
# Tidy tables

A store takes attendance only about events that are there, and keeps all rows under their own keys.
So the tables of a store are tidy whatever has been asked of it, and so is what an open transaction
sees.  This is most easily seen of a store that copies its tables.

* `Tables.Stored` says that tables are those of some store in memory.
* `Tables.Stored.tidy` says that such tables are tidy.
-/

namespace TeamCalendar

namespace Tables

/-- Events and attendance records are under their own keys, and the records about stored events. -/
structure Tidy (tables : Tables) : Prop where
  keyed : tables.Keyed
  filed : tables.Filed
  anchored : tables.Anchored

/-- These are the tables of a store in memory after some calls. -/
def Stored (tables : Tables) : Prop :=
  ∃ (ids : IdSource) (calls : List StoreCall),
    tables = (StoreCall.after Store.serve calls { ids }).committed

variable {tables changed : Tables}

theorem tidy_empty : Tidy {} where
  keyed := stocked_empty.keyed
  filed := sound_empty.filed
  anchored := anchored_empty

theorem Tidy.putEvent (h : tables.Tidy) (event : Event) : (tables.putEvent event).Tidy where
  keyed := h.keyed.putEvent event
  filed := h.filed
  anchored key record hrecord := exists_event_putEvent event (h.anchored key record hrecord)

theorem Tidy.putRecords (h : tables.Tidy) {records : List AttendanceRecord}
    (hcheck : tables.check [] records = .ok ()) : (tables.putRecords records).Tidy := by
  obtain ⟨hevents, hdistinct, -⟩ := check_eq_ok_iff.1 hcheck
  -- a record that is found is one of the new ones, or an old one
  have hfound (key : AttendanceKey) (record : AttendanceRecord)
      (hrecord : (tables.putRecords records).attendance[key]? = some record) :
      (record ∈ records ∧ record.key = key) ∨ tables.attendance[key]? = some record := by
    change (AttendanceRecord.tabulate records tables.attendance)[key]? = _ at hrecord
    by_cases hkey : key ∈ records.map (·.key)
    · obtain ⟨new, hnew, rfl⟩ := List.mem_map.1 hkey
      rw [AttendanceRecord.getElem?_tabulate_of_mem hnew hdistinct] at hrecord
      cases hrecord
      exact .inl ⟨hnew, rfl⟩
    · rw [AttendanceRecord.getElem?_tabulate_of_not_mem hkey] at hrecord
      exact .inr hrecord
  refine ⟨h.keyed, ?_, ?_⟩
  · intro key record hrecord
    rcases hfound key record hrecord with ⟨-, hkey⟩ | hold
    · exact hkey
    · exact h.filed key record hold
  · intro key record hrecord
    rcases hfound key record hrecord with ⟨hnew, rfl⟩ | hold
    · exact ⟨_, Std.ExtTreeMap.getElem?_eq_some_getElem (hevents record hnew)⟩
    · exact h.anchored key record hold

theorem Tidy.replaceEvent? (h : tables.Tidy) {event : Event}
    (hchanged : tables.replaceEvent? event = some changed) : changed.Tidy := by
  obtain ⟨current, -, hchanged⟩ := Option.bind_eq_some_iff.1 hchanged
  split at hchanged
  · cases hchanged
    exact h.putEvent event
  · cases hchanged

theorem Tidy.putStatus? (h : tables.Tidy) {key : AttendanceKey} {status : Status} {now : Instant}
    (hchanged : tables.putStatus? key status now = some changed) : changed.Tidy := by
  obtain ⟨record, hrecord, rfl⟩ := Option.map_eq_some_iff.1 hchanged
  have hfound (other : AttendanceKey) (row : AttendanceRecord)
      (hrow : (tables.attendance.insert key { record with status, updatedAt := now })[other]? =
        some row) : ∃ old, tables.attendance[other]? = some old ∧ row.key = old.key := by
    rw [Table.getElem?_insert] at hrow
    split at hrow
    · next hkey =>
      subst hkey
      cases hrow
      exact ⟨record, hrecord, rfl⟩
    · exact ⟨row, hrow, rfl⟩
  refine ⟨h.keyed, ?_, ?_⟩
  · intro other row hrow
    obtain ⟨old, hold, hkey⟩ := hfound other row hrow
    exact hkey.trans (h.filed other old hold)
  · intro other row hrow
    obtain ⟨old, hold, -⟩ := hfound other row hrow
    exact h.anchored other old hold

end Tables

namespace CopyingStore

variable {store after : CopyingStore}

/-- The tables are tidy, and so is the copy that is worked on. -/
structure Tidy (store : CopyingStore) : Prop where
  tables : store.tables.Tidy
  copy : ∀ copy, store.copy? = some copy → copy.Tidy

theorem Tidy.withCopy {α : Type} (h : store.Tidy)
    {act : Tables → Except String α × CopyingStore} (hact : ∀ copy, copy.Tidy → (act copy).2.Tidy) :
    (store.withCopy act).2.Tidy := by
  rw [CopyingStore.withCopy]
  cases hcopy : store.copy? with
  | none => exact h
  | some copy => exact hact copy (h.copy copy hcopy)

theorem Tidy.settle (h : store.Tidy) {changed? : Option Tables}
    (hchanged : ∀ changed, changed? = some changed → changed.Tidy) :
    (store.settle changed?).2.Tidy := by
  cases changed? with
  | none => exact h
  | some changed => exact ⟨h.tables, hchanged⟩

theorem Tidy.insertAttendance (h : store.Tidy) {copy : Tables} (hcopy : copy.Tidy)
    (records : List AttendanceRecord) : (store.insertAttendance copy records).2.Tidy := by
  rw [CopyingStore.insertAttendance]
  split
  · exact ⟨h.tables, h.copy⟩
  · split
    · next hcheck =>
      refine ⟨h.tables, fun changed hchanged => ?_⟩
      cases hchanged
      exact hcopy.putRecords hcheck
    · exact ⟨h.tables, h.copy⟩

/-- Every answer leaves the tables tidy. -/
theorem Tidy.reply? (h : store.Tidy) {q : Storage.Question} {answer : Storage.Answer q}
    (hreply : reply? q store = some (answer, after)) : after.Tidy := by
  have houtcome : ∀ outcome, CopyingStore.reply? q store = some outcome → outcome.2.Tidy := by
    intro outcome houtcome
    cases q with
    | begin =>
      rw [CopyingStore.reply?] at houtcome
      split at houtcome
      · cases houtcome
        refine ⟨h.tables, fun copy hcopy => ?_⟩
        cases hcopy
        exact h.tables
      · cases houtcome
    | findEvent id => cases houtcome; exact h
    | listTeamEvents teamId => cases houtcome; exact h
    | listAttendance id => cases houtcome; exact h
    | ping => cases houtcome; exact h
    | insertEvent new =>
      cases houtcome
      refine h.withCopy fun copy hcopy => ⟨h.tables, fun changed hchanged => ?_⟩
      cases hchanged
      exact hcopy.putEvent _
    | insertAttendance records =>
      cases houtcome
      exact h.withCopy fun copy hcopy => h.insertAttendance hcopy records
    | lockEvent id => cases houtcome; exact h.withCopy fun _ _ => h
    | updateEvent event =>
      cases houtcome
      exact h.withCopy fun copy hcopy => h.settle fun changed => hcopy.replaceEvent?
    | updateStatus eventId userId status now =>
      cases houtcome
      exact h.withCopy fun copy hcopy => h.settle fun changed => hcopy.putStatus?
    | commit =>
      cases houtcome
      refine h.withCopy fun copy hcopy => ⟨hcopy, fun other hnone => ?_⟩
      cases hnone
    | rollback =>
      cases houtcome
      refine ⟨h.tables, fun other hnone => ?_⟩
      cases hnone
  exact houtcome _ hreply

end CopyingStore

namespace Store

variable {store after : Store}

/-- The tables are tidy, and so is what the open transaction sees. -/
def Tidy (store : Store) : Prop :=
  store.copying.Tidy

theorem Tidy.committed (h : store.Tidy) : store.committed.Tidy :=
  h.tables

theorem tidy_of_free (hfree : store.staged = none) (h : store.committed.Tidy) : store.Tidy where
  tables := h
  copy copy hcopy := by
    rw [copying, hfree] at hcopy
    cases hcopy

theorem tidy_new (ids : IdSource) : Tidy { ids } :=
  tidy_of_free rfl Tables.tidy_empty

theorem Tidy.answer? (h : store.Tidy) {q : Storage.Question} {answer : Storage.Answer q}
    (hanswer : answer? q store = some (answer, after)) : after.Tidy := by
  have hreply : CopyingStore.reply? q store.copying = some (answer, after.copying) := by
    rw [reply?_copying, hanswer, Option.map_some]
  exact CopyingStore.Tidy.reply? h hreply

theorem Tidy.serve (h : store.Tidy) (call : StoreCall) :
    (StoreCall.after Store.serve [call] store).Tidy := by
  cases call with
  | ask q =>
    cases hanswer : Store.answer? q store with
    | none =>
      rw [StoreCall.after_singleton, Store.serve, hanswer]
      exact h
    | some outcome =>
      rw [StoreCall.after_singleton, Store.serve, hanswer]
      exact h.answer? hanswer
  | eventCount => exact h
  | teamEventCount teamId => exact h
  | attendanceCount => exact h
  | batchCount => exact h
  | setFailing failing => exact ⟨h.tables, h.copy⟩

/-- Whatever is asked of it, a store stays tidy. -/
theorem tidy_after (h : store.Tidy) (calls : List StoreCall) :
    (StoreCall.after Store.serve calls store).Tidy := by
  induction calls generalizing store with
  | nil => exact h
  | cons call calls ih => exact ih (h.serve call)

end Store

/-- The tables of every store in memory are tidy. -/
theorem Tables.Stored.tidy {tables : Tables} (h : tables.Stored) : tables.Tidy := by
  obtain ⟨ids, calls, rfl⟩ := h
  exact (Store.tidy_after (Store.tidy_new ids) calls).committed

end TeamCalendar
