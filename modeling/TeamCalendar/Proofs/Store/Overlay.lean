import TeamCalendar.Store

/-!
# Tables over tables

What a transaction has staged is laid over the committed tables when it is closed.  The lemmas say
what comes of it when one event, one attendance record or a batch of records has been staged.
-/

namespace TeamCalendar

section Union

variable {κ ν : Type} [Ord κ] [Std.TransOrd κ] [Std.LawfulEqOrd κ]

@[simp]
theorem Table.union_empty (table : Table κ ν) : table ∪ ∅ = table := by
  refine Std.ExtTreeMap.ext_getElem? fun key => ?_
  rw [Std.ExtTreeMap.getElem?_union, Std.ExtTreeMap.getElem?_empty, Option.none_or]

@[simp]
theorem Table.empty_union (table : Table κ ν) : ∅ ∪ table = table := by
  refine Std.ExtTreeMap.ext_getElem? fun key => ?_
  rw [Std.ExtTreeMap.getElem?_union, Std.ExtTreeMap.getElem?_empty, Option.or_none]

theorem Table.union_insert_empty (table : Table κ ν) (key : κ) (row : ν) :
    table ∪ (∅ : Table κ ν).insert key row = table.insert key row := by
  refine Std.ExtTreeMap.ext_getElem? fun other => ?_
  rw [Std.ExtTreeMap.getElem?_union, Std.ExtTreeMap.getElem?_insert,
    Std.ExtTreeMap.getElem?_insert, Std.ExtTreeMap.getElem?_empty]
  split
  · rfl
  · rfl

/-- A row that has been put in place is found under its key. -/
theorem Table.getElem?_insert [DecidableEq κ] (table : Table κ ν) (key other : κ) (row : ν) :
    (table.insert key row)[other]? = if key = other then some row else table[other]? := by
  rw [Std.ExtTreeMap.getElem?_insert]
  simp only [Std.LawfulEqCmp.compare_eq_iff_eq]

end Union

namespace Tables

/-- An event that has been put in place is found under its identifier. -/
@[simp]
theorem getElem?_events_putEvent (tables : Tables) (event : Event) (id : EventId) :
    (tables.putEvent event).events[id]? =
      if event.id = id then some event else tables.events[id]? :=
  Table.getElem?_insert _ _ _ _

@[simp]
theorem attendance_putEvent (tables : Tables) (event : Event) :
    (tables.putEvent event).attendance = tables.attendance :=
  rfl

/-- One event is laid over the others. -/
theorem overlay_putEvent (lower : Tables) (event : Event) :
    lower.overlay (putEvent {} event) = lower.putEvent event := by
  rw [overlay, putEvent, putEvent, Table.union_insert_empty, Table.union_empty]

/-- One attendance record is laid over the others. -/
theorem overlay_record (lower : Tables) (key : AttendanceKey) (record : AttendanceRecord) :
    lower.overlay { attendance := (∅ : Table AttendanceKey AttendanceRecord).insert key record } =
      { lower with attendance := lower.attendance.insert key record } := by
  rw [overlay, Table.union_insert_empty, Table.union_empty]

/-- One event and a batch of attendance records are laid over the others. -/
theorem overlay_putEvent_batch (lower : Tables) (event : Event)
    (batch : Table AttendanceKey AttendanceRecord) :
    lower.overlay { putEvent {} event with attendance := ∅ ∪ batch } =
      { lower.putEvent event with attendance := lower.attendance ∪ batch } := by
  rw [overlay, putEvent, putEvent, Table.union_insert_empty, Table.empty_union]

end Tables

end TeamCalendar
