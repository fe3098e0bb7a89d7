import TeamCalendar.Proofs.Store.Copying

/-!
# Staging and copying

A store that stages rows and lays them over the committed ones goes along with a store that copies:
`Store.copying` says what the copy is.

* `Store.serve_copying` says that a call is answered alike by both stores, and
  `Store.answers_copying` that this goes for all calls that follow one another.
-/

namespace TeamCalendar

/-- A store seen as one that copies: the copy is what has been staged, laid over the committed
tables. -/
def Store.copying (store : Store) : CopyingStore where
  tables := store.committed
  copy? := store.staged.map store.committed.overlay
  failing := store.failing
  batches := store.batches
  ids := store.ids

/-- A new store is one that copies. -/
theorem Store.copying_new (ids : IdSource) : copying { ids } = { ids } :=
  rfl

/-! ## Rows that are staged belong to the copy -/

section Union

variable {κ ν : Type} [Ord κ] [Std.TransOrd κ] [Std.LawfulEqOrd κ]

theorem Table.union_insert [DecidableEq κ] (lower upper : Table κ ν) (key : κ) (row : ν) :
    lower ∪ upper.insert key row = (lower ∪ upper).insert key row := by
  refine Std.ExtTreeMap.ext_getElem? fun other => ?_
  rw [Std.ExtTreeMap.getElem?_union, Table.getElem?_insert, Table.getElem?_insert,
    Std.ExtTreeMap.getElem?_union]
  split
  · rfl
  · rfl

theorem Table.union_assoc (lower middle upper : Table κ ν) :
    lower ∪ (middle ∪ upper) = lower ∪ middle ∪ upper := by
  refine Std.ExtTreeMap.ext_getElem? fun key => ?_
  rw [Std.ExtTreeMap.getElem?_union, Std.ExtTreeMap.getElem?_union,
    Std.ExtTreeMap.getElem?_union, Std.ExtTreeMap.getElem?_union, Option.or_assoc]

end Union

/-- Records with different keys are added one by one or all at once. -/
theorem AttendanceRecord.union_tabulate {records : List AttendanceRecord}
    (hdistinct : (records.map (·.key)).Nodup) (table : Table AttendanceKey AttendanceRecord) :
    table ∪ tabulate records = tabulate records table := by
  refine Std.ExtTreeMap.ext_getElem? fun key => ?_
  rw [Std.ExtTreeMap.getElem?_union]
  by_cases hkey : key ∈ records.map (·.key)
  · obtain ⟨record, hrecord, rfl⟩ := List.mem_map.1 hkey
    rw [getElem?_tabulate_of_mem hrecord hdistinct, getElem?_tabulate_of_mem hrecord hdistinct]
    rfl
  · rw [getElem?_tabulate_of_not_mem hkey, getElem?_tabulate_of_not_mem hkey,
      Std.ExtTreeMap.getElem?_empty, Option.none_or]

namespace Tables

variable {lower staged : Tables}

theorem overlay_putEvent_staged (lower staged : Tables) (event : Event) :
    lower.overlay (staged.putEvent event) = (lower.overlay staged).putEvent event := by
  rw [overlay, overlay, putEvent, putEvent, Table.union_insert]

theorem overlay_empty (lower : Tables) : lower.overlay {} = lower := by
  rw [overlay, Table.union_empty, Table.union_empty]

end Tables

namespace Transaction

variable {tx : Transaction}

/-- A transaction sees the committed tables with its own rows over them. -/
theorem event?_eq (tx : Transaction) (id : EventId) :
    tx.event? id = (tx.committed.overlay tx.staged).events[id]? :=
  (Tables.getElem?_events_overlay _ _ _).symm

theorem attendance?_eq (tx : Transaction) (key : AttendanceKey) :
    tx.attendance? key = (tx.committed.overlay tx.staged).attendance[key]? :=
  (Tables.getElem?_attendance_overlay _ _ _).symm

/-- Records are taken into a batch exactly if a check of what the transaction sees finds nothing,
and otherwise for the same reason refused. -/
theorem foldlM_addToBatch_eq (tx : Transaction) {records : List AttendanceRecord}
    {earlier : List AttendanceKey} {start : Table AttendanceKey AttendanceRecord}
    (hearlier : ∀ key, key ∈ earlier ↔ key ∈ start) :
    records.foldlM tx.addToBatch start =
      ((tx.committed.overlay tx.staged).check earlier records).map fun _ =>
        AttendanceRecord.tabulate records start := by
  induction records generalizing earlier start with
  | nil => rfl
  | cons record records ih =>
    have hunknown : (tx.event? record.eventId).isNone = true ↔
        record.eventId ∉ (tx.committed.overlay tx.staged).events := by
      rw [event?_eq, Option.isNone_iff_eq_none, Std.ExtTreeMap.mem_iff_isSome_getElem?,
        Option.not_isSome_iff_eq_none]
    have htaken : (start.contains record.key || (tx.attendance? record.key).isSome) = true ↔
        record.key ∈ earlier ∨
          record.key ∈ (tx.committed.overlay tx.staged).attendance := by
      rw [Bool.or_eq_true, Std.ExtTreeMap.contains_iff_mem, hearlier, attendance?_eq,
        ← Std.ExtTreeMap.contains_eq_isSome_getElem?, Std.ExtTreeMap.contains_iff_mem]
    simp only [List.foldlM_cons, Tables.check, addToBatch, hunknown, htaken]
    split
    · rfl
    · split
      · rfl
      · refine ih fun key => ?_
        rw [List.mem_cons, hearlier, Std.ExtTreeMap.mem_insert,
          Std.LawfulEqCmp.compare_eq_iff_eq, eq_comm]

theorem batch_eq (tx : Transaction) (records : List AttendanceRecord) :
    tx.batch records = ((tx.committed.overlay tx.staged).check [] records).map fun _ =>
      AttendanceRecord.tabulate records :=
  tx.foldlM_addToBatch_eq fun key => by simp

end Transaction

/-! ## Calls are answered alike -/

namespace Store

variable {store : Store}

/-- Questions within a transaction are answered alike if they are so with the rows staged. -/
theorem within_copying {α : Type} {act : Transaction → Except String α × Store}
    {actCopy : Tables → Except String α × CopyingStore}
    (h : ∀ staged, store.staged = some staged →
      actCopy (store.committed.overlay staged) =
        ((act { committed := store.committed, staged }).1,
          (act { committed := store.committed, staged }).2.copying)) :
    store.copying.withCopy actCopy =
      ((store.within act).1, (store.within act).2.copying) := by
  cases hstaged : store.staged with
  | none =>
    have hcopy : store.copying.copy? = none := by rw [copying, hstaged, Option.map_none]
    simp only [within, transaction?, CopyingStore.withCopy, hcopy, hstaged, Option.map_none]
  | some staged =>
    have hcopy : store.copying.copy? = some (store.committed.overlay staged) := by
      rw [copying, hstaged, Option.map_some]
    simp only [within, transaction?, CopyingStore.withCopy, hcopy, hstaged, Option.map_some]
    exact h staged hstaged

/-- Stages what a transaction has become and says whether it has become anything. -/
def settle (store : Store) (changed? : Option Transaction) : Except String Bool × Store :=
  match changed? with
  | some tx => (.ok true, store.stage tx)
  | none => (.ok false, store)

/-- A change that a transaction stages is made to the copy. -/
theorem settle_copying (store : Store) (changed? : Option Transaction) :
    store.copying.settle (changed?.map fun tx => store.committed.overlay tx.staged) =
      ((store.settle changed?).1, (store.settle changed?).2.copying) := by
  cases changed? with
  | none => rfl
  | some tx => rfl

theorem insertAttendance_copying (store : Store) (staged : Tables)
    (records : List AttendanceRecord) :
    store.copying.insertAttendance (store.committed.overlay staged) records =
      let outcome := store.insertAttendance { committed := store.committed, staged } records
      (outcome.1.mapError AttendanceFault.message, outcome.2.copying) := by
  unfold CopyingStore.insertAttendance insertAttendance
  cases hfailing : store.failing with
  | true =>
    simp only [copying, hfailing, if_true]
    rfl
  | false =>
    have hbatch := Transaction.batch_eq { committed := store.committed, staged } records
    cases hcheck : (store.committed.overlay staged).check [] records with
    | error fault =>
      rw [hcheck] at hbatch
      simp only [copying, hfailing, hbatch, Except.map]
      rfl
    | ok =>
      rw [hcheck] at hbatch
      have hdistinct := (Tables.check_eq_ok_iff.1 hcheck).2.1
      have hrows : (store.committed.overlay staged).putRecords records =
          store.committed.overlay
            { staged with
              attendance := staged.attendance ∪ AttendanceRecord.tabulate records } := by
        have hattendance := Table.union_assoc store.committed.attendance staged.attendance
          (AttendanceRecord.tabulate records)
        simp only [AttendanceRecord.union_tabulate hdistinct] at hattendance
        simp only [Tables.overlay, Tables.putRecords, AttendanceRecord.union_tabulate hdistinct,
          hattendance]
      simp only [copying, hfailing, hbatch, hrows, Except.map]
      rw [Transaction.size_batch hbatch]
      rfl

theorem replaceEvent?_overlay (tx : Transaction) (event : Event) :
    (tx.committed.overlay tx.staged).replaceEvent? event =
      (tx.updateEvent? event).map fun tx' => tx.committed.overlay tx'.staged := by
  rw [Tables.replaceEvent?, Transaction.updateEvent?, ← Transaction.event?_eq]
  cases tx.event? event.id with
  | none => rfl
  | some current =>
    simp only [Option.bind_some]
    split
    · exact congrArg some (Tables.overlay_putEvent_staged _ _ _).symm
    · rfl

theorem putStatus?_overlay (tx : Transaction) (key : AttendanceKey) (status : Status)
    (now : Instant) :
    (tx.committed.overlay tx.staged).putStatus? key status now =
      (tx.updateStatus? key status now).map fun tx' => tx.committed.overlay tx'.staged := by
  rw [Tables.putStatus?, Transaction.updateStatus?, ← Transaction.attendance?_eq]
  cases tx.attendance? key with
  | none => rfl
  | some record =>
    simp only [Option.map_some, Tables.overlay, Table.union_insert]

/-- A question is answered alike by a store and by one that copies. -/
theorem reply?_copying (q : Storage.Question) (store : Store) :
    CopyingStore.reply? q store.copying =
      (answer? q store).map fun outcome => (outcome.1, outcome.2.copying) := by
  cases q with
  | begin =>
    change CopyingStore.reply? .begin store.copying = (store.begin?.map _).map _
    rw [begin?, CopyingStore.reply?, copying]
    cases store.staged with
    | none =>
      simp only [Option.map_none, Option.map_some, copying, Tables.overlay_empty]
    | some staged => rfl
  | findEvent id => rfl
  | listTeamEvents teamId => rfl
  | listAttendance id => rfl
  | ping => rfl
  | insertEvent new =>
    refine congrArg some (within_copying fun staged _ => ?_)
    simp only [insertEvent, stage, copying, Transaction.putEvent, Option.map_some,
      Tables.overlay_putEvent_staged]
  | insertAttendance records =>
    exact congrArg some (within_copying fun staged _ => insertAttendance_copying store staged records)
  | lockEvent id =>
    refine congrArg some (within_copying fun staged _ => ?_)
    rw [Transaction.event?_eq]
  | updateEvent event =>
    refine congrArg some (within_copying fun staged _ => ?_)
    rw [replaceEvent?_overlay { committed := store.committed, staged }]
    exact settle_copying store _
  | updateStatus eventId userId status now =>
    refine congrArg some (within_copying fun staged _ => ?_)
    rw [putStatus?_overlay { committed := store.committed, staged }]
    exact settle_copying store _
  | commit =>
    refine congrArg some (within_copying fun staged hstaged => ?_)
    simp only [commit, copying, hstaged, Option.getD_some, Option.map_none]
  | rollback => rfl

/-- A call is answered alike by a store and by one that copies. -/
theorem serve_copying (call : StoreCall) (store : Store) :
    CopyingStore.serve call store.copying =
      (serve call store).map fun outcome => (outcome.1, outcome.2.copying) := by
  cases call with
  | ask q => exact reply?_copying q store
  | eventCount => rfl
  | teamEventCount teamId => rfl
  | attendanceCount => rfl
  | batchCount => rfl
  | setFailing failing => rfl

/-- A call that is answered says the same, whichever of the two stores it is made to. -/
theorem answer?_copying (call : StoreCall) (store : Store) :
    StoreCall.answer? CopyingStore.serve call store.copying =
      StoreCall.answer? serve call store := by
  rw [StoreCall.answer?, StoreCall.answer?, serve_copying, Option.map_map]
  rfl

/-- A store stays alike to the one that copies, through all calls. -/
theorem after_copying (calls : List StoreCall) (store : Store) :
    StoreCall.after CopyingStore.serve calls store.copying =
      (StoreCall.after serve calls store).copying := by
  induction calls generalizing store with
  | nil => rfl
  | cons call calls ih =>
    have hcall : StoreCall.after CopyingStore.serve [call] store.copying =
        (StoreCall.after serve [call] store).copying := by
      rw [StoreCall.after_singleton, StoreCall.after_singleton, serve_copying]
      cases serve call store with
      | none => rfl
      | some outcome => rfl
    rw [StoreCall.after_cons, hcall, ih]
    rfl

/-- All calls are answered alike by a store and by one that copies. -/
theorem answers_copying (calls : List StoreCall) (store : Store) :
    StoreCall.answers serve calls store =
      StoreCall.answers CopyingStore.serve calls store.copying := by
  induction calls generalizing store with
  | nil => rfl
  | cons call calls ih =>
    rw [StoreCall.answers, StoreCall.answers, answer?_copying, after_copying, ih]

end Store

end TeamCalendar
