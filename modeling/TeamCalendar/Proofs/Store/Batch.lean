import Mathlib.Data.Finset.Card
import TeamCalendar.Store

/-!
# Batches of attendance records

A batch is written as a whole or not at all.  It is written exactly if each record is about an event
that the transaction sees, and no two records, written or to be written, have the same key.

The cohort of a new event is such a batch, whatever the roster repeats: it has one record for each
user of the roster.
-/

namespace TeamCalendar

/-- The table that has the given records; of records with the same key it has the last one. -/
def AttendanceRecord.tabulate (records : List AttendanceRecord)
    (start : Table AttendanceKey AttendanceRecord := ∅) : Table AttendanceKey AttendanceRecord :=
  records.foldl (fun table record => table.insert record.key record) start

namespace AttendanceRecord

section Tabulate

variable {records : List AttendanceRecord} {start : Table AttendanceKey AttendanceRecord}

theorem tabulate_eq_insertMany :
    tabulate records start = start.insertMany (records.map fun record => (record.key, record)) := by
  rw [Std.ExtTreeMap.insertMany_list_eq_foldl, List.foldl_map]
  rfl

theorem contains_fst_eq_false {key : AttendanceKey} (h : key ∉ records.map (·.key)) :
    ((records.map fun record => (record.key, record)).map Prod.fst).contains key = false := by
  rw [List.map_map, List.contains_eq_mem]
  exact decide_eq_false h

theorem pairwise_fst_of_nodup (hdistinct : (records.map (·.key)).Nodup) :
    (records.map fun record => (record.key, record)).Pairwise
      fun first second => ¬compare first.1 second.1 = .eq := by
  rw [List.pairwise_map]
  refine (List.pairwise_map.1 hdistinct).imp ?_
  intro first second hne heq
  exact hne (Std.LawfulEqOrd.eq_of_compare heq)

theorem getElem?_tabulate_of_not_mem {key : AttendanceKey} (h : key ∉ records.map (·.key))
    (start : Table AttendanceKey AttendanceRecord) :
    (tabulate records start)[key]? = start[key]? := by
  rw [tabulate_eq_insertMany]
  exact Std.ExtTreeMap.getElem?_insertMany_list_of_contains_eq_false (contains_fst_eq_false h)

theorem getElem?_tabulate_of_mem {record : AttendanceRecord} (hmem : record ∈ records)
    (hdistinct : (records.map (·.key)).Nodup) (start : Table AttendanceKey AttendanceRecord) :
    (tabulate records start)[record.key]? = some record := by
  rw [tabulate_eq_insertMany]
  exact Std.ExtTreeMap.getElem?_insertMany_list_of_mem Std.ReflCmp.compare_self
    (pairwise_fst_of_nodup hdistinct) (List.mem_map_of_mem hmem)

theorem size_tabulate (hdistinct : (records.map (·.key)).Nodup)
    (hstart : ∀ record ∈ records, record.key ∉ start) :
    (tabulate records start).size = start.size + records.length := by
  rw [tabulate_eq_insertMany,
    Std.ExtTreeMap.size_insertMany_list (pairwise_fst_of_nodup hdistinct), List.length_map]
  intro key hkey
  apply contains_fst_eq_false
  intro hmem
  obtain ⟨record, hrecord, rfl⟩ := List.mem_map.1 hmem
  exact hstart record hrecord hkey

end Tabulate

/-- Records whose keys are free leave free, one after the other, the keys of those to come. -/
theorem forall_not_mem_insert {record : AttendanceRecord} {records : List AttendanceRecord}
    {start : Table AttendanceKey AttendanceRecord}
    (hrecord : record.key ∉ records.map (·.key))
    (hstart : ∀ other ∈ records, other.key ∉ start) :
    ∀ other ∈ records, other.key ∉ start.insert record.key record := by
  intro other hother hmem
  rcases Std.ExtTreeMap.mem_insert.1 hmem with heq | hmem
  · apply hrecord
    rw [Std.LawfulEqOrd.eq_of_compare heq]
    exact List.mem_map_of_mem hother
  · exact hstart other hother hmem

end AttendanceRecord

namespace Transaction

/-- The records can be written as a batch. -/
structure Accepts (tx : Transaction) (records : List AttendanceRecord) : Prop where
  /-- Each record is about an event that the transaction sees. -/
  known : ∀ record ∈ records, (tx.event? record.eventId).isSome
  /-- No record has the key of one that is there already. -/
  absent : ∀ record ∈ records, tx.attendance? record.key = none
  /-- No two records have the same key. -/
  distinct : (records.map (·.key)).Nodup

theorem addToBatch_eq_ok_iff {tx : Transaction} {record : AttendanceRecord}
    {start batch : Table AttendanceKey AttendanceRecord} :
    tx.addToBatch start record = .ok batch ↔
      (tx.event? record.eventId).isSome ∧ tx.attendance? record.key = none ∧ record.key ∉ start ∧
        start.insert record.key record = batch := by
  unfold addToBatch
  split
  · next hunknown =>
    rw [Option.isNone_iff_eq_none] at hunknown
    simp [hunknown]
  · next hknown =>
    rw [Option.isNone_iff_eq_none, ← ne_eq, ← Option.isSome_iff_ne_none] at hknown
    split
    · next htaken =>
      rw [Bool.or_eq_true, Std.ExtTreeMap.contains_iff_mem, Option.isSome_iff_ne_none] at htaken
      constructor
      · intro h
        cases h
      · rintro ⟨-, habsent, hstart, -⟩
        exact absurd htaken (not_or.2 ⟨hstart, not_not.2 habsent⟩)
    · next hfree =>
      rw [Bool.or_eq_true, Std.ExtTreeMap.contains_iff_mem, Option.isSome_iff_ne_none, not_or,
        not_not] at hfree
      simp [hknown, hfree.1, hfree.2]

theorem foldlM_addToBatch_eq_ok_iff {tx : Transaction} {records : List AttendanceRecord}
    {start batch : Table AttendanceKey AttendanceRecord} :
    records.foldlM tx.addToBatch start = .ok batch ↔
      tx.Accepts records ∧ (∀ record ∈ records, record.key ∉ start) ∧
        AttendanceRecord.tabulate records start = batch := by
  induction records generalizing start with
  | nil =>
    have hempty : tx.Accepts [] := ⟨by simp, by simp, List.nodup_nil⟩
    simp [AttendanceRecord.tabulate, hempty, pure, Except.pure]
  | cons record records ih =>
    rw [List.foldlM_cons]
    constructor
    · intro h
      cases hadd : tx.addToBatch start record with
      | error fault =>
        rw [hadd] at h
        cases h
      | ok next =>
        rw [hadd] at h
        obtain ⟨hknown, habsent, hstart, rfl⟩ := addToBatch_eq_ok_iff.1 hadd
        obtain ⟨haccepts, hrest, rfl⟩ := ih.1 h
        -- the records to come have avoided the batch, and with it the key of the first one
        have hkey : ∀ other ∈ records, other.key ≠ record.key ∧ other.key ∉ start := by
          intro other hother
          have hnot := hrest other hother
          rw [Std.ExtTreeMap.mem_insert, not_or, Std.LawfulEqCmp.compare_eq_iff_eq] at hnot
          exact ⟨Ne.symm hnot.1, hnot.2⟩
        refine ⟨⟨?_, ?_, ?_⟩, ?_, rfl⟩
        · exact List.forall_mem_cons.2 ⟨hknown, haccepts.known⟩
        · exact List.forall_mem_cons.2 ⟨habsent, haccepts.absent⟩
        · rw [List.map_cons, List.nodup_cons]
          refine ⟨?_, haccepts.distinct⟩
          intro hmem
          obtain ⟨other, hother, heq⟩ := List.mem_map.1 hmem
          exact (hkey other hother).1 heq
        · exact List.forall_mem_cons.2 ⟨hstart, fun other hother => (hkey other hother).2⟩
    · rintro ⟨⟨hknown, habsent, hdistinct⟩, hstart, hbatch⟩
      rw [List.forall_mem_cons] at hknown habsent hstart
      rw [List.map_cons, List.nodup_cons] at hdistinct
      have hadd : tx.addToBatch start record = .ok (start.insert record.key record) :=
        addToBatch_eq_ok_iff.2 ⟨hknown.1, habsent.1, hstart.1, rfl⟩
      rw [hadd]
      have hrest := AttendanceRecord.forall_not_mem_insert hdistinct.1 hstart.2
      exact ih.2 ⟨⟨hknown.2, habsent.2, hdistinct.2⟩, hrest, hbatch⟩

/-- A batch is made exactly of records that can be written, and it has them and no others. -/
theorem batch_eq_ok_iff {tx : Transaction} {records : List AttendanceRecord}
    {batch : Table AttendanceKey AttendanceRecord} :
    tx.batch records = .ok batch ↔
      tx.Accepts records ∧ AttendanceRecord.tabulate records = batch := by
  rw [Transaction.batch, foldlM_addToBatch_eq_ok_iff]
  simp

/-- A batch has as many rows as it was made of. -/
theorem size_batch {tx : Transaction} {records : List AttendanceRecord}
    {batch : Table AttendanceKey AttendanceRecord} (h : tx.batch records = .ok batch) :
    batch.size = records.length := by
  obtain ⟨haccepts, rfl⟩ := batch_eq_ok_iff.1 h
  rw [AttendanceRecord.size_tabulate haccepts.distinct (by simp)]
  simp

end Transaction

/-! ## The cohort of an event -/

/-- What is left when repetitions are dropped is in its old order. -/
theorem eraseDups_sublist {α : Type} [BEq α] [LawfulBEq α] (l : List α) :
    l.eraseDups.Sublist l := by
  -- the tail is searched only for what differs from the head
  induction hlength : l.length using Nat.strong_induction_on generalizing l with
  | h n ih =>
    cases l with
    | nil => exact .slnil
    | cons a as =>
      have hshort : (as.filter fun b => !b == a).length < n := by
        rw [← hlength, List.length_cons]
        exact Nat.lt_succ_of_le (List.length_filter_le _ as)
      rw [List.eraseDups_cons]
      exact ((ih _ hshort _ rfl).trans List.filter_sublist).cons_cons a

theorem nodup_eraseDups {α : Type} [BEq α] [LawfulBEq α] (l : List α) : l.eraseDups.Nodup := by
  -- the tail is searched only for what differs from the head
  induction hlength : l.length using Nat.strong_induction_on generalizing l with
  | h n ih =>
    cases l with
    | nil => exact List.nodup_nil
    | cons a as =>
      have hshort : (as.filter fun b => !b == a).length < n := by
        rw [← hlength, List.length_cons]
        exact Nat.lt_succ_of_le (List.length_filter_le _ as)
      rw [List.eraseDups_cons, List.nodup_cons]
      refine ⟨?_, ih _ hshort _ rfl⟩
      simp [List.mem_eraseDups]

theorem eraseDups_eq_nil_iff {α : Type} [BEq α] [LawfulBEq α] {l : List α} :
    l.eraseDups = [] ↔ l = [] := by
  cases l with
  | nil => simp
  | cons a as => simp [List.eraseDups_cons]

namespace AttendanceRecord

variable {event : Event} {roster : List Member} {now : Instant}

theorem mem_cohort {record : AttendanceRecord} :
    record ∈ cohort event roster now ↔
      ∃ userId ∈ roster.map (·.userId), pending event userId now = record := by
  simp only [cohort, List.mem_map, List.mem_eraseDups]

/-- There are no records exactly if nobody is on the roster. -/
theorem cohort_eq_nil_iff : cohort event roster now = [] ↔ roster = [] := by
  rw [cohort, List.map_eq_nil_iff, eraseDups_eq_nil_iff, List.map_eq_nil_iff]

theorem nodup_key_cohort : ((cohort event roster now).map (·.key)).Nodup := by
  rw [cohort, List.map_map]
  refine (nodup_eraseDups _).map ?_
  intro a b h
  exact congrArg AttendanceKey.userId h

/-- The number of records is that of the different users. -/
theorem length_cohort :
    (cohort event roster now).length = (roster.map (·.userId)).toFinset.card := by
  have hsame : (roster.map (·.userId)).eraseDups.toFinset = (roster.map (·.userId)).toFinset := by
    ext userId
    simp only [List.mem_toFinset, List.mem_eraseDups]
  rw [cohort, List.length_map, ← hsame, List.toFinset_card_of_nodup (nodup_eraseDups _)]

/-- The rows of a cohort. -/
theorem getElem?_tabulate_cohort (key : AttendanceKey) :
    (tabulate (cohort event roster now))[key]? =
      if key.eventId = event.id ∧ key.userId ∈ roster.map (·.userId) then
        some (pending event key.userId now)
      else none := by
  split
  · next hkey =>
    have hmem : pending event key.userId now ∈ cohort event roster now :=
      mem_cohort.2 ⟨key.userId, hkey.2, rfl⟩
    have hrow := getElem?_tabulate_of_mem hmem nodup_key_cohort ∅
    have heq : (pending event key.userId now).key = key := by
      rw [AttendanceRecord.key, pending, ← hkey.1]
    rwa [heq] at hrow
  · next hkey =>
    rw [getElem?_tabulate_of_not_mem, Std.ExtTreeMap.getElem?_empty]
    intro hmem
    obtain ⟨record, hrecord, rfl⟩ := List.mem_map.1 hmem
    obtain ⟨userId, huser, rfl⟩ := mem_cohort.1 hrecord
    exact hkey ⟨rfl, huser⟩

/-- The rows of a table to which a cohort has been added. -/
theorem getElem?_union_tabulate_cohort (table : Table AttendanceKey AttendanceRecord)
    (key : AttendanceKey) :
    (table ∪ tabulate (cohort event roster now))[key]? =
      if key.eventId = event.id ∧ key.userId ∈ roster.map (·.userId) then
        some (pending event key.userId now)
      else table[key]? := by
  rw [Std.ExtTreeMap.getElem?_union, getElem?_tabulate_cohort]
  split
  · rfl
  · rfl

end AttendanceRecord

end TeamCalendar
