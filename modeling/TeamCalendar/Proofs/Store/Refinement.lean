import TeamCalendar.Proofs.Store.Copying.Rows
import TeamCalendar.Proofs.Store.Tidy

/-!
# Staging cannot be told from copying

A store that stages rows and lays them over the committed ones cannot be told apart from a store
that copies, whatever it is asked and in whatever order.

* `Store.answer?_after_append` and `Store.answer?_after_commit` say what is seen of a transaction from
  outside, `Store.answer?_after_eq_none_iff` when a transaction has to wait.
* `Store.refines_copying` puts this together with what is to be said of the store that copies, row by
  row.
-/

namespace TeamCalendar

namespace Store

/-- After some calls a call is answered as by a store that copies. -/
theorem answer?_after (call : StoreCall) (calls : List StoreCall) (ids : IdSource) :
    StoreCall.answer? serve call (StoreCall.after serve calls { ids }) =
      StoreCall.answer? CopyingStore.serve call
        (StoreCall.after CopyingStore.serve calls { ids }) := by
  rw [← copying_new, after_copying, answer?_copying]

/-- Nothing that happens before a commit is seen from outside of a transaction. -/
theorem answer?_after_append {call : StoreCall} (hcall : call.isReading = true)
    (calls : List StoreCall) {more : List StoreCall} (hmore : .ask .commit ∉ more)
    (ids : IdSource) :
    StoreCall.answer? serve call (StoreCall.after serve (calls ++ more) { ids }) =
      StoreCall.answer? serve call (StoreCall.after serve calls { ids }) := by
  rw [answer?_after, answer?_after, StoreCall.after_append, CopyingStore.answer?_of_isReading hcall,
    CopyingStore.tables_after_of_not_mem hmore, ← CopyingStore.answer?_of_isReading hcall]

/-- After a commit everything that the transaction has seen is seen from outside of it. -/
theorem answer?_after_commit {call : StoreCall} (hcall : call.isReading = true)
    (calls : List StoreCall) {copy : Tables} (ids : IdSource)
    (hcopy : (StoreCall.after CopyingStore.serve calls { ids }).copy? = some copy) :
    StoreCall.answer? serve call (StoreCall.after serve (calls ++ [.ask .commit]) { ids }) =
      StoreCall.answer? CopyingStore.serve call { tables := copy } := by
  rw [answer?_after, StoreCall.after_append, CopyingStore.after_commit hcopy,
    CopyingStore.answer?_of_isReading hcall]

/-- A call is refused exactly if it is to open a transaction while another one is open. -/
theorem answer?_after_eq_none_iff (call : StoreCall) (calls : List StoreCall) (ids : IdSource) :
    StoreCall.answer? serve call (StoreCall.after serve calls { ids }) = none ↔
      call = .ask .begin ∧ StoreCall.leaveOpen calls = true := by
  rw [answer?_after, CopyingStore.answer?_eq_none_iff, CopyingStore.isSome_copy?_after_calls]
  rfl

/-- After any calls a store that copies tells of its tables. -/
theorem tells_after (calls : List StoreCall) (ids : IdSource) :
    (StoreCall.after CopyingStore.serve calls { ids }).Tells := by
  have htidy := (tidy_after (tidy_new ids) calls).committed
  rw [← copying_new, after_copying]
  exact CopyingStore.tells htidy.keyed htidy.filed

/-- A store in memory cannot be told from one that copies its tables for a transaction: whatever the
calls, their answers are the same.  A transaction works on the copy row by row.  Attendance is added
to the copy all or not at all.  From outside of a transaction the tables are told, and nothing of the
transaction is seen before the commit, and all of it afterwards.  To open a transaction is refused
exactly while another one is open. -/
theorem refines_copying (ids : IdSource) (calls : List StoreCall) :
    StoreCall.answers serve calls { ids } =
      StoreCall.answers CopyingStore.serve calls { ids } ∧
    (∀ store : CopyingStore,
      (store.copy? = none →
        CopyingStore.serve (.ask .begin) store =
          some (.ok (), { store with copy? := some store.tables })) ∧
      ∀ copy, store.copy? = some copy → store.WorksOn copy) ∧
    (∀ (store : CopyingStore) (copy : Tables) (records : List AttendanceRecord),
      store.copy? = some copy →
      (store.failing = false ∧
          (∀ record ∈ records, record.eventId ∈ copy.events) ∧
          (records.map (·.key)).Nodup ∧ (∀ record ∈ records, record.key ∉ copy.attendance) →
        ∃ written : Tables,
          CopyingStore.serve (.ask (.insertAttendance records)) store =
            some (.ok records.length,
              { store with batches := store.batches + 1, copy? := some written }) ∧
          written.events = copy.events ∧
          (∀ record ∈ records, written.attendance[record.key]? = some record) ∧
          ∀ key ∉ records.map (·.key), written.attendance[key]? = copy.attendance[key]?) ∧
      (¬ (store.failing = false ∧
          (∀ record ∈ records, record.eventId ∈ copy.events) ∧
          (records.map (·.key)).Nodup ∧ (∀ record ∈ records, record.key ∉ copy.attendance)) →
        ∃ text, CopyingStore.serve (.ask (.insertAttendance records)) store =
          some (.error text, { store with batches := store.batches + 1 }))) ∧
    (StoreCall.after CopyingStore.serve calls { ids }).Tells ∧
    (∀ reading : StoreCall, reading.isReading = true →
      (∀ more : List StoreCall, .ask .commit ∉ more →
        StoreCall.answer? serve reading (StoreCall.after serve (calls ++ more) { ids }) =
          StoreCall.answer? serve reading (StoreCall.after serve calls { ids })) ∧
      ∀ copy, (StoreCall.after CopyingStore.serve calls { ids }).copy? = some copy →
        StoreCall.answer? serve reading
            (StoreCall.after serve (calls ++ [.ask .commit]) { ids }) =
          StoreCall.answer? CopyingStore.serve reading { tables := copy }) ∧
    ∀ call : StoreCall,
      StoreCall.answer? serve call (StoreCall.after serve calls { ids }) = none ↔
        call = .ask .begin ∧ StoreCall.leaveOpen calls = true :=
  ⟨answers_copying calls { ids },
    fun _ => ⟨CopyingStore.serve_begin_of_none, fun _ => CopyingStore.worksOn⟩,
    fun _ _ _ hcopy =>
      ⟨CopyingStore.serve_insertAttendance_of_accepts hcopy,
        CopyingStore.serve_insertAttendance_of_not_accepts hcopy⟩,
    tells_after calls ids,
    fun _ hreading =>
      ⟨fun _ hmore => answer?_after_append hreading calls hmore ids,
        fun _ hcopy => answer?_after_commit hreading calls ids hcopy⟩,
    fun call => answer?_after_eq_none_iff call calls ids⟩

end Store

end TeamCalendar
