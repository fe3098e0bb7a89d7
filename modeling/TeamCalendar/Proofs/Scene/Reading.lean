import TeamCalendar.Proofs.Scene.Transaction
import TeamCalendar.Proofs.Store.Rows

/-!
# Reading in a scene

The relations `Scene.Reading` and `Scene.Listing` have one case for each way in which reading an
event and listing the events of a team may end.  Neither waits for an open transaction.

* `Scene.run_eventDetails` and `Scene.run_teamEvents` say that there are no other ends.
-/

namespace TeamCalendar

theorem AttendanceRecord.userIds_eq_nil_iff {records : List AttendanceRecord} :
    userIds records = [] ↔ records = [] := by
  rw [userIds, eraseDups_eq_nil_iff, List.map_eq_nil_iff]

namespace Service

/-- The details of an event with the given attendance records. -/
def details (settings : RuntimeSettings) (event : Event) (records : List AttendanceRecord) :
    Service EventDetails := do
  let userIds := AttendanceRecord.userIds records
  let profiles ← if userIds.isEmpty then pure ∅ else profiles settings userIds
  let attendance ← join records profiles
  pure { event, attendance }

theorem eventDetails_eq (settings : RuntimeSettings) (requester : UserId) (id : EventId) :
    eventDetails settings requester id = (do
      let event ← findEvent id
      let _ ← authorizeRead settings requester event.teamId
      let records ← stored (← ask (.storage (.listAttendance id)))
      details settings event (AttendanceRecord.sorted records)) := by
  unfold eventDetails details
  rfl

/-- The profiles are asked for if there are records. -/
theorem details_of_ne_nil (settings : RuntimeSettings) (event : Event)
    {records : List AttendanceRecord} (hrecords : records ≠ []) :
    details settings event records = (do
      let profiles ← profiles settings (AttendanceRecord.userIds records)
      let attendance ← join records profiles
      pure { event, attendance }) := by
  have huserIds : ¬(AttendanceRecord.userIds records).isEmpty = true := by
    rwa [List.isEmpty_iff, AttendanceRecord.userIds_eq_nil_iff]
  unfold details
  simp only [if_neg huserIds]

end Service

/-- The counters after some records have been left out. -/
def Tally.addMisses (tally : Tally) (misses : Nat) : Tally :=
  if 0 < misses then tally.add (.profileMisses misses) else tally

namespace Scene

/-- How reading an event may end. -/
inductive Reading (c : Collaborators) (settings : RuntimeSettings) (requester : UserId)
    (id : EventId) (s : Scene) : Except Refusal EventDetails → Scene → Prop where
  /-- There is no such event. -/
  | missing (hmissing : s.store.committed.events[id]? = none) :
    Reading c settings requester id s (.error (.notFound s!"event {id}"))
      (s.note (.storage (.findEvent id)))
  /-- The requester is not shown to have a permitted role. -/
  | denied {event : Event} {refusal : Refusal}
    (hevent : s.store.committed.events[id]? = some event)
    (hgate : c.gate settings requester event.teamId Role.readers = .error refusal) :
    Reading c settings requester id s (.error refusal)
      ((s.note (.storage (.findEvent id))).gated c settings requester event.teamId)
  /-- The profiles of the users are not told in time. -/
  | unknown {event : Event} {role : Role} {cause : String} {s' : Scene}
    (hevent : s.store.committed.events[id]? = some event)
    (hgate : c.gate settings requester event.teamId Role.readers = .ok role)
    (hlost : (c.profiles (AttendanceRecord.userIds (s.store.committed.attendanceOf id))).Lost
      settings.deadline)
    (hrefused : s.Refused (.unavailable cause) s')
    (hcalls : s'.calls =
      .directory (.profiles (AttendanceRecord.userIds (s.store.committed.attendanceOf id))) ::
      .storage (.listAttendance id) ::
      .directory (.membership event.teamId [requester]) :: .storage (.findEvent id) :: s.calls) :
    Reading c settings requester id s (.error (.unavailable cause)) s'
  /-- The event is told without attendees, for there are no records. -/
  | deserted {event : Event} {role : Role} {s' : Scene}
    (hevent : s.store.committed.events[id]? = some event)
    (hgate : c.gate settings requester event.teamId Role.readers = .ok role)
    (hrecords : s.store.committed.attendanceOf id = [])
    (hkept : s.Kept s') (htally : s'.tally = s.tally)
    (hcalls : s'.calls = .storage (.listAttendance id) ::
      .directory (.membership event.teamId [requester]) :: .storage (.findEvent id) :: s.calls) :
    Reading c settings requester id s (.ok { event, attendance := [] }) s'
  /-- The event is told with its attendees. -/
  | attended {event : Event} {role : Role} {profiles : Profiles} {attendance : List Attendee}
    {s' : Scene}
    (hevent : s.store.committed.events[id]? = some event)
    (hgate : c.gate settings requester event.teamId Role.readers = .ok role)
    (hrecords : s.store.committed.attendanceOf id ≠ [])
    (hprofiles : (c.profiles (AttendanceRecord.userIds (s.store.committed.attendanceOf id))).Gives
      settings.deadline profiles)
    (hattendance : attendance =
      (s.store.committed.attendanceOf id).filterMap (·.attendee? profiles))
    (hkept : s.Kept s')
    (htally : s'.tally = s.tally.addMisses
      ((s.store.committed.attendanceOf id).length - attendance.length))
    (hcalls : s'.calls =
      .directory (.profiles (AttendanceRecord.userIds (s.store.committed.attendanceOf id))) ::
      .storage (.listAttendance id) ::
      .directory (.membership event.teamId [requester]) :: .storage (.findEvent id) :: s.calls) :
    Reading c settings requester id s (.ok { event, attendance }) s'

/-- How listing the events of a team may end. -/
inductive Listing (c : Collaborators) (settings : RuntimeSettings) (requester : UserId)
    (teamId : TeamId) (s : Scene) : Except Refusal (List Event) → Scene → Prop where
  /-- The requester is not shown to have a permitted role. -/
  | denied {refusal : Refusal}
    (hgate : c.gate settings requester teamId Role.readers = .error refusal) :
    Listing c settings requester teamId s (.error refusal) (s.gated c settings requester teamId)
  /-- The events are told. -/
  | listed {role : Role} (hgate : c.gate settings requester teamId Role.readers = .ok role) :
    Listing c settings requester teamId s
      (.ok (Event.sorted (s.store.committed.teamEvents teamId)))
      ((s.note (.directory (.membership teamId [requester]))).note
        (.storage (.listTeamEvents teamId)))

variable {c : Collaborators} {settings : RuntimeSettings} {requester : UserId} {teamId : TeamId}
  {id : EventId} {s : Scene}

theorem run_teamEvents_denied {refusal : Refusal}
    (hgate : c.gate settings requester teamId Role.readers = .error refusal) :
    run c (Service.teamEvents settings requester teamId) s =
      some (.error refusal, s.gated c settings requester teamId) := by
  unfold Service.teamEvents
  exact run_bind_error (run_authorize_error hgate)

/-- Listing the events of a team ends in one of the known ways. -/
theorem run_teamEvents (c : Collaborators) (settings : RuntimeSettings) (requester : UserId)
    (teamId : TeamId) (s : Scene) :
    ∃ result s', run c (Service.teamEvents settings requester teamId) s = some (result, s') ∧
      Listing c settings requester teamId s result s' := by
  cases hgate : c.gate settings requester teamId Role.readers with
  | error refusal => exact ⟨_, _, run_teamEvents_denied hgate, .denied hgate⟩
  | ok role =>
    unfold Service.teamEvents
    exact ⟨_, _, run_bind_ok (run_authorize_ok hgate), .listed hgate⟩

/-- Records are joined with profiles, and those left out are counted. -/
theorem run_join (c : Collaborators) (records : List AttendanceRecord) (profiles : Profiles)
    (s : Scene) :
    ∃ s', run c (Service.join records profiles) s =
        some (.ok (records.filterMap (·.attendee? profiles)), s') ∧
      s.Kept s' ∧ s'.calls = s.calls ∧
      s'.tally = s.tally.addMisses
        (records.length - (records.filterMap (·.attendee? profiles)).length) := by
  unfold Service.join Tally.addMisses
  by_cases hmisses : 0 < records.length - (records.filterMap (·.attendee? profiles)).length
  · simp only [if_pos hmisses]
    exact ⟨_, run_bind_ok (run_count _), ⟨rfl, rfl, rfl, rfl⟩, rfl, rfl⟩
  · simp only [if_neg hmisses]
    exact ⟨s, rfl, ⟨rfl, rfl, rfl, rfl⟩, rfl, rfl⟩

theorem run_details_deserted (c : Collaborators) (settings : RuntimeSettings) (event : Event)
    (s : Scene) :
    run c (Service.details settings event []) s = some (.ok { event, attendance := [] }, s) :=
  rfl

section Details

variable {records : List AttendanceRecord}

theorem run_details_unknown (event : Event) (hrecords : records ≠ []) {refusal : Refusal}
    (hverdict : (c.profiles (AttendanceRecord.userIds records)).verdict settings.deadline
      "get_profiles" = .error refusal) :
    run c (Service.details settings event records) s =
      some (.error refusal, s.consulted (.profiles (AttendanceRecord.userIds records))
        ((c.profiles (AttendanceRecord.userIds records)).verdict settings.deadline
          "get_profiles")) := by
  have hprofiles := run_profiles c settings (AttendanceRecord.userIds records) s
  simp only [hverdict] at hprofiles ⊢
  rw [Service.details_of_ne_nil settings event hrecords]
  exact run_bind_error hprofiles

theorem run_details_attended (event : Event) (hrecords : records ≠ []) {profiles : Profiles}
    (hgives : (c.profiles (AttendanceRecord.userIds records)).Gives settings.deadline profiles) :
    ∃ s', run c (Service.details settings event records) s =
        some (.ok { event, attendance := records.filterMap (·.attendee? profiles) }, s') ∧
      s.Kept s' ∧
      s'.calls = .directory (.profiles (AttendanceRecord.userIds records)) :: s.calls ∧
      s'.tally = s.tally.addMisses
        (records.length - (records.filterMap (·.attendee? profiles)).length) := by
  have hprofiles := run_profiles c settings (AttendanceRecord.userIds records) s
  simp only [Timed.verdict_eq_ok_iff.2 hgives] at hprofiles
  obtain ⟨s', hjoin, hkept, hcalls, htally⟩ := run_join c records profiles
    (s.note (.directory (.profiles (AttendanceRecord.userIds records))))
  refine ⟨s', ?_, hkept.of_note, hcalls, htally⟩
  rw [Service.details_of_ne_nil settings event hrecords]
  exact (run_bind_ok hprofiles).trans (run_bind_ok hjoin)

end Details

theorem run_eventDetails_missing (hmissing : s.store.committed.events[id]? = none) :
    run c (Service.eventDetails settings requester id) s =
      some (.error (.notFound s!"event {id}"), s.note (.storage (.findEvent id))) := by
  unfold Service.eventDetails
  exact run_bind_error (run_findEvent_error hmissing)

theorem run_eventDetails_denied {event : Event} {refusal : Refusal}
    (hevent : s.store.committed.events[id]? = some event)
    (hgate : c.gate settings requester event.teamId Role.readers = .error refusal) :
    run c (Service.eventDetails settings requester id) s =
      some (.error refusal,
        (s.note (.storage (.findEvent id))).gated c settings requester event.teamId) := by
  unfold Service.eventDetails
  refine (run_bind_ok (run_findEvent_ok hevent)).trans ?_
  exact run_bind_error (run_authorize_error hgate)

/-- The scene in which the attendance records of an event have been listed for a requester. -/
def opened (s : Scene) (requester : UserId) (event : Event) (id : EventId) : Scene :=
  ((s.note (.storage (.findEvent id))).note
    (.directory (.membership event.teamId [requester]))).note (.storage (.listAttendance id))

theorem run_eventDetails_permitted {event : Event} {role : Role}
    (hevent : s.store.committed.events[id]? = some event)
    (hgate : c.gate settings requester event.teamId Role.readers = .ok role) :
    run c (Service.eventDetails settings requester id) s =
      run c (Service.details settings event (s.store.committed.attendanceOf id))
        (s.opened requester event id) := by
  rw [Service.eventDetails_eq]
  refine (run_bind_ok (run_findEvent_ok hevent)).trans ?_
  refine (run_bind_ok (run_authorize_ok hgate)).trans ?_
  refine (run_bind_ok (run_ask_storage rfl)).trans ?_
  exact run_bind_ok run_stored_ok

/-- Reading an event ends in one of the known ways. -/
theorem run_eventDetails (c : Collaborators) (settings : RuntimeSettings) (requester : UserId)
    (id : EventId) (s : Scene) :
    ∃ result s', run c (Service.eventDetails settings requester id) s = some (result, s') ∧
      Reading c settings requester id s result s' := by
  cases hevent : s.store.committed.events[id]? with
  | none => exact ⟨_, _, run_eventDetails_missing hevent, .missing hevent⟩
  | some event =>
    cases hgate : c.gate settings requester event.teamId Role.readers with
    | error refusal => exact ⟨_, _, run_eventDetails_denied hevent hgate, .denied hevent hgate⟩
    | ok role =>
      rw [run_eventDetails_permitted hevent hgate]
      by_cases hrecords : s.store.committed.attendanceOf id = []
      · rw [hrecords]
        exact ⟨_, _, run_details_deserted _ _ _ _,
          .deserted hevent hgate hrecords ⟨rfl, rfl, rfl, rfl⟩ rfl rfl⟩
      · cases hverdict : (c.profiles (AttendanceRecord.userIds
            (s.store.committed.attendanceOf id))).verdict settings.deadline "get_profiles" with
        | error refusal =>
          obtain ⟨hlost, cause, rfl⟩ := Timed.exists_eq_unavailable_of_verdict hverdict
          refine ⟨_, _, run_details_unknown event hrecords hverdict, ?_⟩
          exact .unknown hevent hgate hlost
            (refused_consulted hverdict).of_note.of_note.of_note (calls_consulted _ _)
        | ok profiles =>
          have hgives := Timed.verdict_eq_ok_iff.1 hverdict
          obtain ⟨s', hrun, hkept, hcalls, htally⟩ := run_details_attended
            (s := s.opened requester event id) event hrecords hgives
          refine ⟨_, s', hrun, ?_⟩
          exact .attended hevent hgate hrecords hgives rfl hkept.of_note.of_note.of_note htally
            hcalls

/-- Reading an event writes nothing. -/
theorem Reading.kept {c : Collaborators} {settings : RuntimeSettings} {requester : UserId}
    {id : EventId} {s s' : Scene} {result : Except Refusal EventDetails}
    (h : s.Reading c settings requester id result s') : s.Kept s' := by
  cases h with
  | missing => exact ⟨rfl, rfl, rfl, rfl⟩
  | denied hevent hgate => exact (refused_gated hgate).toKept.of_note
  | unknown hevent hgate hlost hrefused => exact hrefused.toKept
  | deserted hevent hgate hrecords hkept => exact hkept
  | attended hevent hgate hrecords hprofiles hattendance hkept => exact hkept

/-- An event that is told is the stored one, and its attendees come from its records and from the
profiles that were told. -/
theorem Reading.shown {c : Collaborators} {settings : RuntimeSettings} {requester : UserId}
    {id : EventId} {s s' : Scene} {details : EventDetails}
    (h : s.Reading c settings requester id (.ok details) s') :
    s.store.committed.events[id]? = some details.event ∧
    ∃ profiles, (AttendanceRecord.userIds (s.store.committed.attendanceOf id) = [] ∨
        (c.profiles (AttendanceRecord.userIds (s.store.committed.attendanceOf id))).Gives
          settings.deadline profiles) ∧
      details.attendance =
        (s.store.committed.attendanceOf id).filterMap (·.attendee? profiles) := by
  cases h with
  | deserted hevent hgate hrecords =>
    refine ⟨hevent, ∅, Or.inl (AttendanceRecord.userIds_eq_nil_iff.2 hrecords), ?_⟩
    rw [hrecords]
    rfl
  | attended hevent hgate hrecords hprofiles hattendance =>
    exact ⟨hevent, _, Or.inr hprofiles, hattendance⟩

/-- Listing the events of a team writes nothing. -/
theorem Listing.kept {c : Collaborators} {settings : RuntimeSettings} {requester : UserId}
    {teamId : TeamId} {s s' : Scene} {result : Except Refusal (List Event)}
    (h : s.Listing c settings requester teamId result s') : s.Kept s' := by
  cases h with
  | denied hgate => exact (refused_gated hgate).toKept
  | listed => exact ⟨rfl, rfl, rfl, rfl⟩

end Scene

end TeamCalendar
