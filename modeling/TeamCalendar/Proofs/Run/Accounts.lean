import Mathlib.Algebra.GroupWithZero.Nat
import TeamCalendar.Proofs.Run.Conclusion

/-!
# The counters account for the requests

Every counter tells, up to its 64 bits, how often something has happened since the first request.

* `Entry.Counted` says what one request adds to each counter.
* `FullRun.counter_eq_sum` adds this up over a run, for any counter.
* `Accounts` spells out the result, and compares it with what is stored.
-/

namespace TeamCalendar

namespace Operation

def isCreate : Operation → Bool
  | create _ => true
  | _ => false

def isUpdate : Operation → Bool
  | update .. => true
  | _ => false

def isRespond : Operation → Bool
  | respond .. => true
  | _ => false

end Operation

namespace Refusal

def isUnavailable : Refusal → Bool
  | unavailable _ => true
  | _ => false

def isStorage : Refusal → Bool
  | storage _ => true
  | _ => false

end Refusal

namespace Entry

/-- The request was of the given kind and was not refused. -/
def succeeded (entry : Entry) (kind : Operation → Bool) : Bool :=
  kind entry.visit.operation && entry.reply.isOk

/-- The request was refused for the given kind of reason. -/
def failed (entry : Entry) (kind : Refusal → Bool) : Bool :=
  match entry.reply with
  | .error refusal => kind refusal
  | .ok _ => false

/-- The number of records that were written for the event that the request has created. -/
def rowsMade (entry : Entry) : Nat :=
  match entry.reply with
  | .ok (.created created) => created.attendanceRows
  | _ => 0

/-- The number of records of the event that the request has read whose users were left out. -/
def leftOut (entry : Entry) : Nat :=
  match entry.visit.operation, entry.reply with
  | .read id, .ok (.details details) =>
    (entry.lower.eventAttendance id).length - details.attendance.length
  | _, _ => 0

/-- What one request adds to the counters. -/
structure Counted (entry : Entry) : Prop where
  eventsCreated : entry.after.tally.eventsCreated =
    entry.before.tally.eventsCreated + .ofNat (entry.succeeded Operation.isCreate).toNat
  eventsUpdated : entry.after.tally.eventsUpdated =
    entry.before.tally.eventsUpdated + .ofNat (entry.succeeded Operation.isUpdate).toNat
  attendanceRows : entry.after.tally.attendanceRows =
    entry.before.tally.attendanceRows + .ofNat entry.rowsMade
  attendanceResponses : entry.after.tally.attendanceResponses =
    entry.before.tally.attendanceResponses + .ofNat (entry.succeeded Operation.isRespond).toNat
  profileMisses : entry.after.tally.profileMisses =
    entry.before.tally.profileMisses + .ofNat entry.leftOut
  callFailures : entry.after.tally.callFailures =
    entry.before.tally.callFailures + .ofNat (entry.failed Refusal.isUnavailable).toNat
  storageErrors : entry.after.tally.storageErrors =
    entry.before.tally.storageErrors + .ofNat (entry.failed Refusal.isStorage).toNat

variable {entry : Entry}

theorem Counted.of_refused {refusal : Refusal} (hreply : entry.reply = .error refusal)
    (htally : entry.after.tally = refusal.counted entry.before.tally) : entry.Counted := by
  have hrows : entry.rowsMade = 0 := by rw [rowsMade, hreply]
  have hleft : entry.leftOut = 0 := by
    rw [leftOut, hreply]
    cases entry.visit.operation <;> rfl
  cases refusal <;>
    constructor <;>
    simp [htally, succeeded, failed, hreply, hrows, hleft, Refusal.counted, Tally.add,
      Refusal.isUnavailable, Refusal.isStorage, Except.isOk, Except.toBool]

/-- Every request adds to the counters what it has to. -/
theorem counted (entry : Entry) : entry.Counted := by
  cases entry.conclusion with
  | refused hreply hrefused => exact .of_refused hreply hrefused.tally
  | created hoperation hreply _ hwrote | updated hoperation hreply _ hwrote
  | responded hoperation hreply _ _ hwrote =>
    constructor <;>
      simp [hwrote.tally, Tally.add, succeeded, failed, rowsMade, leftOut, hoperation, hreply,
        Operation.isCreate, Operation.isUpdate, Operation.isRespond, Except.isOk, Except.toBool]
  | read hoperation hreply _ _ htally | listed hoperation hreply _ htally =>
    constructor <;>
      simp [htally, Tally.add, succeeded, failed, rowsMade, leftOut, hoperation, hreply,
        Operation.isCreate, Operation.isUpdate, Operation.isRespond]

end Entry

/-! ## The sizes of the tables -/

namespace Tables

variable {tables : Tables} {event : Event}

theorem size_events_putEvent :
    (tables.putEvent event).events.size =
      if tables.events[event.id]? = none then tables.events.size + 1 else tables.events.size := by
  rw [putEvent, Std.ExtTreeMap.size_insert]
  simp only [Std.ExtTreeMap.contains_eq_isSome_getElem?]
  cases tables.events[event.id]? <;> rfl

/-- The records of a new event come on top of those that are there. -/
theorem size_attendance_cohort {roster : List Member} {now : Instant}
    (habsent : ∀ userId, tables.attendance[AttendanceKey.mk event.id userId]? = none) :
    (tables.attendance ∪ AttendanceRecord.tabulate
      (AttendanceRecord.cohort event roster now)).size =
      tables.attendance.size + (AttendanceRecord.cohort event roster now).length := by
  rw [Std.ExtTreeMap.size_union_of_not_mem, AttendanceRecord.size_tabulate
    AttendanceRecord.nodup_key_cohort (by simp)]
  · simp
  · intro key hkey hnew
    rw [Std.ExtTreeMap.mem_iff_isSome_getElem?] at hkey hnew
    rw [AttendanceRecord.getElem?_tabulate_cohort] at hnew
    split at hnew
    · next hcohort =>
      obtain ⟨eventId, userId⟩ := key
      obtain ⟨rfl, -⟩ := hcohort
      rw [habsent] at hkey
      cases hkey
    · cases hnew

end Tables

namespace Entry

/-- A request makes the table of events longer exactly if it creates one. -/
theorem size_events (entry : Entry) (hfresh : entry.Fresh) (hsound : entry.lower.Sound) :
    entry.upper.events.size =
      entry.lower.events.size + (entry.succeeded Operation.isCreate).toNat := by
  unfold upper succeeded
  cases entry.conclusion with
  | refused hreply hrefused => simp [hrefused.committed, hreply, Except.isOk, Except.toBool]
  | created hoperation hreply hrows hwrote =>
    rw [hwrote.committed, hoperation, hreply, Tables.size_events_putEvent,
      if_pos (hfresh _ hreply)]
    rfl
  | @updated teamId id patch changed occurredAt hoperation hreply hpatched hwrote =>
    have hstored : entry.lower.events[changed.id]? ≠ none := by
      cases hpatched with
      | changed hcurrent hteam hchanged =>
        obtain ⟨-, -, -, rfl⟩ := Patch.apply_eq_ok_iff.1 hchanged
        rw [Patch.id_overlay, hsound.keyed _ _ hcurrent, hcurrent]
        exact Option.some_ne_none _
    rw [hwrote.committed, hoperation, Tables.size_events_putEvent, if_neg hstored]
    rfl
  | responded hoperation hreply hevent hrecord hwrote =>
    rw [hwrote.committed, hoperation]
    rfl
  | read hoperation hreply hkept hattendees htally =>
    rw [hkept.committed, hoperation]
    rfl
  | listed hoperation hreply hkept htally =>
    rw [hkept.committed, hoperation]
    rfl

/-- A request makes the table of records longer by those of the event that it creates. -/
theorem size_attendance (entry : Entry) (hfresh : entry.Fresh) (hsound : entry.lower.Sound) :
    entry.upper.attendance.size = entry.lower.attendance.size + entry.rowsMade := by
  unfold upper rowsMade
  cases entry.conclusion with
  | refused hreply hrefused =>
    rw [hrefused.committed, hreply]
    rfl
  | @created new created roster time occurredAt hoperation hreply hrows hwrote =>
    rw [hwrote.committed, hreply]
    dsimp only
    rw [Tables.size_attendance_cohort, hrows]
    intro userId
    cases hrecord : entry.lower.attendance[AttendanceKey.mk created.event.id userId]? with
    | none => rfl
    | some record =>
      obtain ⟨event, hevent, -⟩ := hsound.anchored _ _ hrecord
      rw [hfresh _ hreply] at hevent
      cases hevent
  | updated hoperation hreply hpatched hwrote =>
    rw [hwrote.committed, hreply]
    rfl
  | @responded id status event record time occurredAt hoperation hreply hevent hrecord hwrote =>
    have hstored : entry.lower.attendance.contains ⟨id, entry.requester⟩ = true := by
      rw [Std.ExtTreeMap.contains_eq_isSome_getElem?, hrecord]
      rfl
    rw [hwrote.committed, hreply]
    dsimp only
    rw [Std.ExtTreeMap.size_insert, if_pos hstored]
    rfl
  | read hoperation hreply hkept hattendees htally =>
    rw [hkept.committed, hreply]
    rfl
  | listed hoperation hreply hkept htally =>
    rw [hkept.committed, hreply]
    rfl

end Entry

/-! ## Adding up -/

theorem sum_map_toNat {α : Type} (holds : α → Bool) (l : List α) :
    (l.map fun a => (holds a).toNat).sum = l.countP holds := by
  induction l with
  | nil => rfl
  | cons a l ih =>
    rw [List.map_cons, List.sum_cons, ih, List.countP_cons]
    cases holds a <;> simp [Nat.add_comm]

namespace FullRun

variable {log : List Entry} {s : Scene}

/-- A counter to which each request adds its weight holds the sum of the weights. -/
theorem counter_eq_sum (hrun : FullRun log s) (counter : Tally → UInt64) (weight : Entry → Nat)
    (hzero : counter {} = 0)
    (hstep : ∀ entry, counter entry.after.tally =
      counter entry.before.tally + .ofNat (weight entry)) :
    counter s.tally = .ofNat (log.map weight).sum := by
  induction hrun with
  | start hpristine =>
    rw [hpristine.uncounted, hzero]
    rfl
  | switch hrun failing ih => exact ih
  | visit entry hrun ih =>
    rw [hstep, ih, List.map_cons, List.sum_cons, Nat.add_comm, UInt64.ofNat_add]

/-- A counter that counts the requests of one kind holds their number. -/
theorem counter_eq_countP (hrun : FullRun log s) (counter : Tally → UInt64)
    (holds : Entry → Bool) (hzero : counter {} = 0)
    (hstep : ∀ entry, counter entry.after.tally =
      counter entry.before.tally + .ofNat (holds entry).toNat) :
    counter s.tally = .ofNat (log.countP holds) := by
  rw [hrun.counter_eq_sum counter (fun entry => (holds entry).toNat) hzero hstep,
    sum_map_toNat]

/-- A measure of the tables to which each request adds its weight is the sum of the weights. -/
theorem measure_eq_sum (hrun : FullRun log s) (hfresh : ∀ entry ∈ log, entry.Fresh)
    (measure : Tables → Nat) (weight : Entry → Nat) (hzero : measure {} = 0)
    (hstep : ∀ entry : Entry, entry.Fresh → entry.lower.Sound →
      measure entry.upper = measure entry.lower + weight entry) :
    measure s.store.committed = (log.map weight).sum := by
  induction hrun with
  | start hpristine =>
    rw [hpristine.empty, hzero]
    rfl
  | switch hrun failing ih => exact ih hfresh
  | visit entry hrun ih =>
    rw [List.forall_mem_cons] at hfresh
    have hlower := ih hfresh.2
    have hupper := hstep entry hfresh.1 ((FullRun.run hrun).sound hfresh.2)
    rw [Entry.upper, Entry.lower, hlower] at hupper
    rw [hupper, List.map_cons, List.sum_cons, Nat.add_comm]

end FullRun

/-- What the counters say of the requests of a log and of the scene that they lead to. -/
structure Accounts (log : List Entry) (s : Scene) : Prop where
  eventsCreated :
    s.tally.eventsCreated = .ofNat (log.countP (·.succeeded Operation.isCreate))
  eventsStored : s.tally.eventsCreated = .ofNat s.store.committed.events.size
  rowsStored : s.tally.attendanceRows = .ofNat s.store.committed.attendance.size
  eventsUpdated :
    s.tally.eventsUpdated = .ofNat (log.countP (·.succeeded Operation.isUpdate))
  attendanceResponses :
    s.tally.attendanceResponses = .ofNat (log.countP (·.succeeded Operation.isRespond))
  callFailures : s.tally.callFailures = .ofNat (log.countP (·.failed Refusal.isUnavailable))
  storageErrors : s.tally.storageErrors = .ofNat (log.countP (·.failed Refusal.isStorage))
  profileMisses : s.tally.profileMisses = .ofNat (log.map (·.leftOut)).sum
  /-- No attendee is returned for whom there is no record, so that what was left out is the
  difference. -/
  attendees : ∀ entry ∈ log, ∀ id details, entry.visit.operation = .read id →
    entry.reply = .ok (.details details) →
    details.attendance.length + entry.leftOut = (entry.lower.eventAttendance id).length

/-- Whatever requests are carried out, in any order and among any collaborators, the counters
account for them, up to the 64 bits that they have. -/
theorem FullRun.accounts {log : List Entry} {s : Scene} (hrun : FullRun log s)
    (hfresh : ∀ entry ∈ log, entry.Fresh) : Accounts log s := by
  have hcreated := hrun.counter_eq_countP (·.eventsCreated) _ rfl fun entry =>
    entry.counted.eventsCreated
  have hrows := hrun.counter_eq_sum (·.attendanceRows) _ rfl fun entry =>
    entry.counted.attendanceRows
  have hevents := hrun.measure_eq_sum hfresh (·.events.size) _ Std.ExtTreeMap.size_empty
    Entry.size_events
  have hattendance := hrun.measure_eq_sum hfresh (·.attendance.size) _ Std.ExtTreeMap.size_empty
    Entry.size_attendance
  refine
    { eventsCreated := hcreated
      eventsStored := ?_
      rowsStored := ?_
      eventsUpdated := hrun.counter_eq_countP (·.eventsUpdated) _ rfl fun entry =>
        entry.counted.eventsUpdated
      attendanceResponses := hrun.counter_eq_countP (·.attendanceResponses) _ rfl fun entry =>
        entry.counted.attendanceResponses
      callFailures := hrun.counter_eq_countP (·.callFailures) _ rfl fun entry =>
        entry.counted.callFailures
      storageErrors := hrun.counter_eq_countP (·.storageErrors) _ rfl fun entry =>
        entry.counted.storageErrors
      profileMisses := hrun.counter_eq_sum (·.profileMisses) _ rfl fun entry =>
        entry.counted.profileMisses
      attendees := ?_ }
  · rw [hcreated, hevents, sum_map_toNat]
  · rw [hrows, hattendance]
  · intro entry hentry id details hoperation hreply
    cases entry.conclusion with
    | read hread hdetails hkept hattendees htally =>
      rw [hoperation] at hread
      cases hread
      rw [hreply] at hdetails
      cases hdetails
      rw [Entry.leftOut, hoperation, hreply]
      dsimp only
      omega
    | refused hrefusal =>
      rw [hreply] at hrefusal
      cases hrefusal
    | created hother | updated hother | responded hother | listed hother =>
      rw [hoperation] at hother
      cases hother

/-- One event has been created, for two users, and one of them has responded. -/
theorem FullRun.accounts_sample :
    Accounts Sample.log Sample.change.after ∧
    Sample.change.after.tally =
      { eventsCreated := 1, eventsUpdated := 1, attendanceRows := 2, attendanceResponses := 1 } :=
  ⟨FullRun.accounts Sample.fullRun_log Sample.fresh_log, by decide +kernel⟩

end TeamCalendar
