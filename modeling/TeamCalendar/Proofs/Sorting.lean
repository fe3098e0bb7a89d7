import TeamCalendar.Proofs.Identifier.Order
import TeamCalendar.Proofs.Store.Batch
import TeamCalendar.Service.Queries

/-!
# Sorted rows

A storage lists rows in any order.  Records are sorted by user and events by start and identifier.
Where no two rows have the same key, the order in which they were listed makes no difference.

* `AttendanceRecord.StablySorted` says what becomes of records, those of one user included.
* `Event.Before` is the order of listed events.
-/

namespace TeamCalendar

/-- Lists of the same elements are the same once they are sorted, if the order tells the elements
apart. -/
theorem mergeSort_eq_of_perm {α : Type} {le : α → α → Bool} {l l' : List α}
    (htrans : ∀ a b c, le a b = true → le b c = true → le a c = true)
    (htotal : ∀ a b, (le a b || le b a) = true)
    (hantisymm : ∀ a ∈ l, ∀ b ∈ l, le a b = true → le b a = true → a = b)
    (hperm : l.Perm l') : l.mergeSort le = l'.mergeSort le := by
  have hsame : (l.mergeSort le).Perm (l'.mergeSort le) :=
    (List.mergeSort_perm l le).trans (hperm.trans (List.mergeSort_perm l' le).symm)
  refine List.Perm.eq_of_pairwise ?_ (List.pairwise_mergeSort htrans htotal l)
    (List.pairwise_mergeSort htrans htotal l') hsame
  intro a b ha hb
  rw [List.mem_mergeSort] at ha hb
  exact hantisymm a ha b (hperm.mem_iff.2 hb)

/-! ## Records by user -/

namespace UserId

variable {a b c : UserId}

theorem precedes_iff : precedes a b = true ↔ a.bits ≤ b.bits :=
  Id.isLE_compare_iff

theorem precedes_trans (a b c : UserId) (hab : precedes a b = true) (hbc : precedes b c = true) :
    precedes a c = true :=
  precedes_iff.2 (BitVec.le_trans (precedes_iff.1 hab) (precedes_iff.1 hbc))

theorem precedes_total (a b : UserId) : (precedes a b || precedes b a) = true := by
  rw [Bool.or_eq_true, precedes_iff, precedes_iff]
  exact BitVec.le_total a.bits b.bits

theorem eq_of_precedes (hab : precedes a b = true) (hba : precedes b a = true) : a = b :=
  Id.eq_of_toNat_eq (Nat.le_antisymm (precedes_iff.1 hab) (precedes_iff.1 hba))

end UserId

namespace AttendanceRecord

variable {records records' : List AttendanceRecord}

/-- Records have been sorted by user, and those of one user are still in their order. -/
structure StablySorted (records sorted : List AttendanceRecord) : Prop where
  perm : sorted.Perm records
  ascending : sorted.Pairwise fun a b => a.userId.bits ≤ b.userId.bits
  stable : ∀ userId, sorted.filter (·.userId = userId) = records.filter (·.userId = userId)

/-- Whether one record does not come after another. -/
abbrev precedes (a b : AttendanceRecord) : Bool :=
  UserId.precedes a.userId b.userId

theorem precedes_trans (a b c : AttendanceRecord) (hab : precedes a b = true)
    (hbc : precedes b c = true) : precedes a c = true :=
  UserId.precedes_trans _ _ _ hab hbc

theorem precedes_total (a b : AttendanceRecord) : (precedes a b || precedes b a) = true :=
  UserId.precedes_total _ _

theorem stablySorted_sorted (records : List AttendanceRecord) :
    StablySorted records (sorted records) := by
  have hperm : (sorted records).Perm records := List.mergeSort_perm _ _
  refine ⟨hperm, ?_, ?_⟩
  · exact (List.pairwise_mergeSort precedes_trans precedes_total records).imp UserId.precedes_iff.1
  · intro userId
    -- the records of the user are in order wherever they stand, so sorting keeps them as they are
    have hpairwise : (records.filter (·.userId = userId)).Pairwise (precedes · ·) := by
      rw [List.pairwise_filter]
      refine List.pairwise_of_forall fun a b ha hb => ?_
      rw [decide_eq_true_iff] at ha hb
      rw [precedes, ha, hb]
      exact UserId.precedes_iff.2 (BitVec.le_refl _)
    have hsublist := (List.sublist_mergeSort precedes_trans precedes_total hpairwise
      List.filter_sublist).filter (·.userId = userId)
    rw [List.filter_filter] at hsublist
    simp only [Bool.and_self] at hsublist
    exact (hsublist.eq_of_length (hperm.filter _).length_eq.symm).symm

theorem sorted_eq_nil_iff : sorted records = [] ↔ records = [] := by
  rw [← List.length_eq_zero_iff, ← List.length_eq_zero_iff, sorted, List.length_mergeSort]

/-- Where no user has two records, their order makes no difference. -/
theorem sorted_eq_of_perm (hdistinct : (records.map (·.userId)).Nodup)
    (hperm : records.Perm records') : sorted records = sorted records' := by
  refine mergeSort_eq_of_perm precedes_trans precedes_total ?_ hperm
  intro a ha b hb hab hba
  exact List.inj_on_of_nodup_map hdistinct ha hb (UserId.eq_of_precedes hab hba)

/-- The users of sorted records are in order, each once. -/
theorem ascending_userIds_sorted (records : List AttendanceRecord) :
    (userIds (sorted records)).Pairwise (·.bits < ·.bits) := by
  have hascending : ((sorted records).map (·.userId)).Pairwise (·.bits ≤ ·.bits) :=
    List.pairwise_map.2 (stablySorted_sorted records).ascending
  exact (hascending.sublist (eraseDups_sublist _)).imp₂ (fun _ _ => Id.lt_of_le_of_ne)
    (nodup_eraseDups _)

theorem mem_userIds_sorted (records : List AttendanceRecord) (userId : UserId) :
    userId ∈ userIds (sorted records) ↔ ∃ record ∈ records, record.userId = userId := by
  rw [userIds, List.mem_eraseDups, List.mem_map]
  simp only [(stablySorted_sorted records).perm.mem_iff]

end AttendanceRecord

/-! ## Events by start -/

namespace Event

variable {a b : Event} {events events' : List Event}

/-- The order of listed events: by start, and those that start together by identifier. -/
def Before (a b : Event) : Prop :=
  a.startTime < b.startTime ∨ a.startTime = b.startTime ∧ a.id.bits < b.id.bits

theorem precedes_iff : a.precedes b = true ↔
    a.startTime.second < b.startTime.second ∨ a.startTime.second = b.startTime.second ∧
      (a.startTime.nano < b.startTime.nano ∨ a.startTime.nano = b.startTime.nano ∧
        a.id.bits.toNat ≤ b.id.bits.toNat) := by
  rw [precedes, Bool.or_eq_true, Bool.and_eq_true, decide_eq_true_iff, decide_eq_true_iff,
    Id.isLE_compare_iff, BitVec.le_def, Instant.lt_def, Instant.ext_iff]
  omega

theorem before_iff : a.Before b ↔
    a.startTime.second < b.startTime.second ∨ a.startTime.second = b.startTime.second ∧
      (a.startTime.nano < b.startTime.nano ∨ a.startTime.nano = b.startTime.nano ∧
        a.id.bits.toNat < b.id.bits.toNat) := by
  rw [Before, BitVec.lt_def, Instant.lt_def, Instant.ext_iff]
  omega

theorem precedes_trans (a b c : Event) (hab : a.precedes b = true) (hbc : b.precedes c = true) :
    a.precedes c = true := by
  rw [precedes_iff] at *
  omega

theorem precedes_total (a b : Event) : (a.precedes b || b.precedes a) = true := by
  rw [Bool.or_eq_true, precedes_iff, precedes_iff]
  omega

/-- Two events neither of which comes before the other have the same identifier. -/
theorem id_eq_of_precedes (hab : a.precedes b = true) (hba : b.precedes a = true) :
    a.id = b.id := by
  rw [precedes_iff] at hab hba
  exact Id.eq_of_toNat_eq (by omega)

theorem Before.precedes (h : a.Before b) : a.precedes b = true := by
  rw [before_iff] at h
  rw [precedes_iff]
  omega

theorem Before.ne (h : a.Before b) : a ≠ b := by
  rintro rfl
  rw [before_iff] at h
  omega

theorem before_of_precedes (h : a.precedes b = true) (hne : a.id ≠ b.id) : a.Before b := by
  have hdiffer : a.id.bits.toNat ≠ b.id.bits.toNat := fun heq => hne (Id.eq_of_toNat_eq heq)
  rw [precedes_iff] at h
  rw [before_iff]
  omega

/-- Sorted events with different identifiers are strictly in order. -/
theorem pairwise_before_sorted (hdistinct : (events.map (·.id)).Nodup) :
    (sorted events).Pairwise Before := by
  have hnodup : ((sorted events).map (·.id)).Nodup :=
    ((List.mergeSort_perm events precedes).map _).nodup_iff.2 hdistinct
  exact (List.pairwise_mergeSort precedes_trans precedes_total events).imp₂
    (fun _ _ => before_of_precedes) (List.pairwise_map.1 hnodup)

/-- Where no two events have the same identifier, their order makes no difference. -/
theorem sorted_eq_of_perm (hdistinct : (events.map (·.id)).Nodup) (hperm : events.Perm events') :
    sorted events = sorted events' := by
  refine mergeSort_eq_of_perm precedes_trans precedes_total ?_ hperm
  intro a ha b hb hab hba
  exact List.inj_on_of_nodup_map hdistinct ha hb (id_eq_of_precedes hab hba)

/-- Events in order stay as they are. -/
theorem sorted_eq_self (h : events.Pairwise Before) : sorted events = events :=
  List.mergeSort_of_pairwise (h.imp Before.precedes)

end Event

end TeamCalendar
