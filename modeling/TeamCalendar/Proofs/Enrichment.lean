import TeamCalendar.Proofs.Conversation.Beside
import TeamCalendar.Proofs.Run.Conclusion
import TeamCalendar.Proofs.Sorting

/-!
# Records and profiles put together

The attendance records of an event are joined with the profiles of their users, which are asked for
all at once.  Nothing is assumed of the storage, which may list records in any order, and several of
one user, nor of the user directory, which may leave out users or tell of others.

* `Collaborators.Enriches` says how an event is told, given the records that were listed.
* `Service.eventDetails_enriched` says that this is how the service tells it, and that the order of
  the records makes no difference where each is of another user.
-/

namespace TeamCalendar

/-- The users whose profiles are asked for. -/
def Surroundings.Question.profiles? : Surroundings.Question → Option (List UserId)
  | directory (.profiles userIds) => some userIds
  | _ => none

namespace AttendanceRecord

variable {profiles : Profiles}

/-- Whether there is a profile for the user of a record. -/
def isKnown (profiles : Profiles) (record : AttendanceRecord) : Bool :=
  profiles[record.userId]?.isSome

/-- A record is shown with its own status and with the profile of its own user. -/
structure ShownAs (profiles : Profiles) (record : AttendanceRecord) (attendee : Attendee) :
    Prop where
  userId : attendee.userId = record.userId
  status : attendee.status = record.status
  profile : profiles[record.userId]? = some attendee.profile

theorem attendee?_of_isKnown {record : AttendanceRecord} (h : record.isKnown profiles = true) :
    ∃ attendee, record.attendee? profiles = some attendee ∧ record.ShownAs profiles attendee := by
  obtain ⟨profile, hprofile⟩ := Option.isSome_iff_exists.1 h
  refine ⟨{ userId := record.userId, profile, status := record.status }, ?_, rfl, rfl, hprofile⟩
  rw [attendee?, hprofile]
  rfl

theorem attendee?_of_not_isKnown {record : AttendanceRecord}
    (h : ¬record.isKnown profiles = true) : record.attendee? profiles = none := by
  rw [isKnown, Option.not_isSome_iff_eq_none] at h
  rw [attendee?, h]
  rfl

/-- The known records are shown one by one, and the others are left out. -/
theorem forall₂_filterMap_attendee? (profiles : Profiles) (records : List AttendanceRecord) :
    List.Forall₂ (ShownAs profiles) (records.filter (isKnown profiles))
      (records.filterMap (·.attendee? profiles)) := by
  induction records with
  | nil => exact .nil
  | cons record records ih =>
    by_cases hknown : record.isKnown profiles = true
    · obtain ⟨attendee, hattendee, hshown⟩ := attendee?_of_isKnown hknown
      rw [List.filter_cons_of_pos hknown, List.filterMap_cons_some hattendee]
      exact .cons hshown ih
    · rw [List.filter_cons_of_neg hknown,
        List.filterMap_cons_none (attendee?_of_not_isKnown hknown)]
      exact ih

/-- Those who are left out are the ones who are not known. -/
theorem length_sub_length_attendees (profiles : Profiles) (records : List AttendanceRecord) :
    records.length - (records.filterMap (·.attendee? profiles)).length =
      (records.filter (!·.isKnown profiles)).length := by
  rw [← (forall₂_filterMap_attendee? profiles records).length_eq]
  have hsplit := List.length_eq_length_filter_add (l := records) (isKnown profiles)
  omega

theorem map_userId_of_shown {records : List AttendanceRecord} {attendees : List Attendee}
    (h : List.Forall₂ (ShownAs profiles) records attendees) :
    attendees.map (·.userId) = records.map (·.userId) := by
  induction h with
  | nil => rfl
  | cons hshown _ ih => rw [List.map_cons, List.map_cons, hshown.userId, ih]

/-- Where no user has two records, the attendees are in the order of their written identifiers. -/
theorem pairwise_text_attendees {records : List AttendanceRecord}
    (hdistinct : (records.map (·.userId)).Nodup) (profiles : Profiles) :
    (((sorted records).filterMap (·.attendee? profiles)).map (·.userId.text)).Pairwise
      (· < ·) := by
  have hstably := stablySorted_sorted records
  have hnodup : ((sorted records).map (·.userId)).Nodup :=
    (hstably.perm.map _).nodup_iff.2 hdistinct
  have hordered : ((sorted records).map (·.userId)).Pairwise (·.bits ≤ ·.bits) :=
    List.pairwise_map.2 hstably.ascending
  have hascending := hordered.imp₂ (fun _ _ => Id.lt_of_le_of_ne) hnodup
  have hsublist : (((sorted records).filterMap (·.attendee? profiles)).map (·.userId)).Sublist
      ((sorted records).map (·.userId)) := by
    rw [map_userId_of_shown (forall₂_filterMap_attendee? profiles (sorted records))]
    exact List.filter_sublist.map _
  have htexts := (hascending.sublist hsublist).imp Id.text_lt
  rw [List.pairwise_map] at htexts ⊢
  exact htexts

end AttendanceRecord

/-! ## The request -/

/-- Counts those who are left out, if there are any. -/
def Talk.missed (past : Talk) (misses : Nat) : Talk :=
  if 0 < misses then ⟨.count (.profileMisses misses), ()⟩ :: past else past

namespace Talk

variable {past : Talk} {misses : Nat}

theorem tally_missed {start : Tally} :
    (past.missed misses).tally start = (past.tally start).add (.profileMisses misses) := by
  rw [← Tally.addMisses_eq, missed, Tally.addMisses]
  split <;> rfl

theorem profiles_missed : (past.missed misses).questions.filterMap (·.profiles?) =
    past.questions.filterMap (·.profiles?) := by
  rw [missed]
  split <;> rfl

end Talk

/-- What has been said when the attendance records of an event have been listed. -/
def Collaborators.opening (c : Collaborators) (storage : Storage.Replies) (requester : UserId)
    (event : Event) (id : EventId) : Talk :=
  [⟨.storage (.listAttendance id), storage (.listAttendance id)⟩,
   ⟨.directory (.membership event.teamId [requester]), c.membership event.teamId [requester]⟩,
   ⟨.storage (.findEvent id), storage (.findEvent id)⟩]

/-- What is told of an event depends only on its records and on the profiles of their users. -/
def Collaborators.enriched (c : Collaborators) (settings : RuntimeSettings) (event : Event)
    (records : List AttendanceRecord) : Except Refusal EventDetails :=
  if records = [] then .ok { event, attendance := [] }
  else
    ((c.profiles (AttendanceRecord.userIds records)).verdict settings.deadline "get_profiles").map
      fun profiles => { event, attendance := records.filterMap (·.attendee? profiles) }

theorem Collaborators.exists_profiles_of_enriched {c : Collaborators} {settings : RuntimeSettings}
    {event : Event} {records : List AttendanceRecord} {details : EventDetails}
    (h : c.enriched settings event records = .ok details) :
    ∃ profiles, details.attendance = records.filterMap (·.attendee? profiles) := by
  unfold enriched at h
  split at h
  · next hrecords =>
    cases h
    exact ⟨∅, by rw [hrecords]; rfl⟩
  · cases hverdict : (c.profiles (AttendanceRecord.userIds records)).verdict settings.deadline
        "get_profiles" with
    | error refusal =>
      rw [hverdict] at h
      cases h
    | ok profiles =>
      rw [hverdict] at h
      cases h
      exact ⟨profiles, rfl⟩

namespace Service

variable {c : Collaborators} {storage : Storage.Replies} {start : Tally}
  {settings : RuntimeSettings} {requester : UserId} {id : EventId} {event : Event} {role : Role}
  {records : List AttendanceRecord} {past : Talk}

/-- A permitted request comes to the point where the records have been listed. -/
theorem converse_eventDetails (hevent : (storage (.findEvent id)).value = .ok (some event))
    (hpermits : c.Permits settings requester event.teamId Role.readers role)
    (hrecords : (storage (.listAttendance id)).value = .ok records) :
    (eventDetails settings requester id).converse (c.beside storage start) =
      (details settings event (AttendanceRecord.sorted records)).resume (c.beside storage start)
        (c.opening storage requester event id) := by
  rw [eventDetails_eq]
  refine (resume_bind_ok (resume_findEvent_ok hevent)).trans ?_
  refine (resume_bind_ok (resume_authorize_ok hpermits)).trans ?_
  refine (resume_bind_ok (resume_ask _ _ _)).trans ?_
  exact resume_bind_ok (resume_stored_ok hrecords)

theorem resume_join (records : List AttendanceRecord) (profiles : Profiles) :
    (join records profiles).resume (c.beside storage start) past =
      (.ok (records.filterMap (·.attendee? profiles)), past.missed
        (records.length - (records.filterMap (·.attendee? profiles)).length)) := by
  unfold join Talk.missed
  by_cases hmisses : 0 < records.length - (records.filterMap (·.attendee? profiles)).length
  · simp only [if_pos hmisses]
    exact resume_bind_ok (resume_ask _ _ _)
  · simp only [if_neg hmisses]
    rfl

theorem resume_details_unknown (event : Event) (hrecords : records ≠ []) {refusal : Refusal}
    (hverdict : (c.profiles (AttendanceRecord.userIds records)).verdict settings.deadline
      "get_profiles" = .error refusal) :
    (details settings event records).resume (c.beside storage start) past =
      (.error refusal, ⟨.count .callFailure, ()⟩ ::
        ⟨.directory (.profiles (AttendanceRecord.userIds records)),
          c.profiles (AttendanceRecord.userIds records)⟩ :: past) := by
  rw [details_of_ne_nil settings event hrecords]
  exact resume_bind_error (resume_profiles_error hverdict)

theorem resume_details_attended (event : Event) (hrecords : records ≠ []) {profiles : Profiles}
    (hgives : (c.profiles (AttendanceRecord.userIds records)).Gives settings.deadline profiles) :
    (details settings event records).resume (c.beside storage start) past =
      (.ok { event, attendance := records.filterMap (·.attendee? profiles) },
        Talk.missed (⟨.directory (.profiles (AttendanceRecord.userIds records)),
          c.profiles (AttendanceRecord.userIds records)⟩ :: past)
          (records.length - (records.filterMap (·.attendee? profiles)).length)) := by
  rw [details_of_ne_nil settings event hrecords]
  exact (resume_bind_ok (resume_profiles_ok hgives)).trans
    (resume_bind_ok (resume_join records profiles))

theorem fst_resume_details (event : Event) (records : List AttendanceRecord) :
    ((details settings event records).resume (c.beside storage start) past).1 =
      c.enriched settings event records := by
  unfold Collaborators.enriched
  by_cases hrecords : records = []
  · subst hrecords
    rfl
  · rw [if_neg hrecords]
    cases hverdict : (c.profiles (AttendanceRecord.userIds records)).verdict settings.deadline
        "get_profiles" with
    | error refusal =>
      rw [resume_details_unknown event hrecords hverdict]
      rfl
    | ok profiles =>
      rw [resume_details_attended event hrecords (Timed.verdict_eq_ok_iff.1 hverdict)]
      rfl

end Service

/-- How an event is told, given the records that the storage has listed, their users, and the
records in order. -/
structure Collaborators.Enriches (c : Collaborators) (settings : RuntimeSettings) (event : Event)
    (records : List AttendanceRecord) (start : Tally) (userIds : List UserId)
    (sorted : List AttendanceRecord) (result : Except Refusal EventDetails) (talk : Talk) :
    Prop where
  /-- The users are in order, each once. -/
  ascending : userIds.Pairwise (·.bits < ·.bits)
  users : ∀ userId, userId ∈ userIds ↔ ∃ record ∈ records, record.userId = userId
  stably : AttendanceRecord.StablySorted records sorted
  /-- The profiles are asked for once, or not at all if there are no records. -/
  asked : talk.questions.filterMap (·.profiles?) = if records = [] then [] else [userIds]
  /-- The user directory fails or is too late. -/
  unavailable : records ≠ [] → (c.profiles userIds).Lost settings.deadline →
    ∃ cause, result = .error (.unavailable cause)
  /-- The known records are shown in order, and the others are counted. -/
  attended : ∀ profiles, records = [] ∨ (c.profiles userIds).Gives settings.deadline profiles →
    ∃ attendance, result = .ok { event, attendance } ∧
      List.Forall₂ (AttendanceRecord.ShownAs profiles)
        (sorted.filter (AttendanceRecord.isKnown profiles)) attendance ∧
      talk.tally start =
        start.add (.profileMisses (records.filter (!·.isKnown profiles)).length)

namespace Service

variable {c : Collaborators} {storage : Storage.Replies} {settings : RuntimeSettings}
  {requester : UserId} {id : EventId} {event : Event} {role : Role}
  {records : List AttendanceRecord}

/-- An event is told as it should be, once its records have been listed. -/
theorem enriches_details (c : Collaborators) (storage : Storage.Replies) (start : Tally)
    (settings : RuntimeSettings) (requester : UserId) (id : EventId) (event : Event)
    (records : List AttendanceRecord) :
    let outcome := (details settings event (AttendanceRecord.sorted records)).resume
      (c.beside storage start) (c.opening storage requester event id)
    c.Enriches settings event records start
      (AttendanceRecord.userIds (AttendanceRecord.sorted records))
      (AttendanceRecord.sorted records) outcome.1 outcome.2 := by
  intro outcome
  have hstably := AttendanceRecord.stablySorted_sorted records
  have hascending := AttendanceRecord.ascending_userIds_sorted records
  have husers := AttendanceRecord.mem_userIds_sorted records
  by_cases hrecords : records = []
  · subst hrecords
    have hnone : AttendanceRecord.sorted [] = [] := AttendanceRecord.sorted_eq_nil_iff.2 rfl
    have houtcome : outcome =
        (.ok { event, attendance := [] }, c.opening storage requester event id) := by
      simp only [outcome, hnone]
      rfl
    rw [houtcome]
    refine ⟨hascending, husers, hstably, rfl, fun h => absurd rfl h, ?_⟩
    intro profiles hprofiles
    refine ⟨[], rfl, ?_, ?_⟩
    · rw [hnone]
      exact .nil
    · rw [← Tally.addMisses_eq]
      rfl
  · have hsorted : AttendanceRecord.sorted records ≠ [] :=
      fun hnone => hrecords (AttendanceRecord.sorted_eq_nil_iff.1 hnone)
    cases hverdict : (c.profiles (AttendanceRecord.userIds
        (AttendanceRecord.sorted records))).verdict settings.deadline "get_profiles" with
    | error refusal =>
      have houtcome : outcome = _ := resume_details_unknown event hsorted hverdict
      obtain ⟨hlost, hcause⟩ := Timed.exists_eq_unavailable_of_verdict hverdict
      rw [houtcome]
      refine ⟨hascending, husers, hstably, (if_neg hrecords).symm, ?_, ?_⟩
      · obtain ⟨cause, rfl⟩ := hcause
        exact fun _ _ => ⟨cause, rfl⟩
      · rintro profiles (hnone | hgives)
        · exact absurd hnone hrecords
        · exact absurd hgives hlost.not_gives
    | ok profiles =>
      have hgives := Timed.verdict_eq_ok_iff.1 hverdict
      have houtcome : outcome = _ := resume_details_attended event hsorted hgives
      rw [houtcome]
      refine ⟨hascending, husers, hstably, ?_, fun _ hlost => absurd hgives hlost.not_gives, ?_⟩
      · rw [Talk.profiles_missed, if_neg hrecords]
        rfl
      · rintro other (hnone | hother)
        · exact absurd hnone hrecords
        · obtain rfl := hgives.unique hother
          refine ⟨_, rfl, AttendanceRecord.forall₂_filterMap_attendee? profiles _, ?_⟩
          rw [Talk.tally_missed, AttendanceRecord.length_sub_length_attendees,
            (hstably.perm.filter _).length_eq]
          rfl

/-- An event is told to a permitted requester with its records in the order of their users, each
with its own status and the profile of its own user; those without a profile are left out and
counted.  All profiles are asked for at once, and if they are not told in time, nothing is.  Where
each record is of another user, the order in which they were listed makes no difference, and the
attendees are in the order of their written identifiers. -/
theorem eventDetails_enriched (start : Tally)
    (hevent : (storage (.findEvent id)).value = .ok (some event))
    (hpermits : c.Permits settings requester event.teamId Role.readers role)
    (hrecords : (storage (.listAttendance id)).value = .ok records) :
    let outcome := (eventDetails settings requester id).converse (c.beside storage start)
    (∃ userIds sorted,
      c.Enriches settings event records start userIds sorted outcome.1 outcome.2) ∧
    ((records.map (·.userId)).Nodup →
      (∀ (storage' : Storage.Replies) (records' : List AttendanceRecord),
        (storage' (.findEvent id)).value = .ok (some event) →
        (storage' (.listAttendance id)).value = .ok records' → records.Perm records' →
        ((eventDetails settings requester id).converse (c.beside storage' start)).1 =
          outcome.1) ∧
      ∀ details, outcome.1 = .ok details →
        (details.attendance.map (·.userId.text)).Pairwise (· < ·)) := by
  intro outcome
  have houtcome : outcome = _ := converse_eventDetails hevent hpermits hrecords
  rw [houtcome]
  refine ⟨⟨_, _, enriches_details c storage start settings requester id event records⟩, ?_⟩
  intro hdistinct
  constructor
  · intro storage' records' hevent' hrecords' hperm
    rw [converse_eventDetails hevent' hpermits hrecords',
      ← AttendanceRecord.sorted_eq_of_perm hdistinct hperm, fst_resume_details,
      fst_resume_details]
  · intro details hdetails
    rw [fst_resume_details] at hdetails
    obtain ⟨profiles, hattendance⟩ := Collaborators.exists_profiles_of_enriched hdetails
    rw [hattendance]
    exact AttendanceRecord.pairwise_text_attendees hdistinct profiles

end Service

namespace Sample

/-- The directories of the team, which tell of the player and of a stranger, whoever is asked for. -/
def talkative : Collaborators where
  directory
    | .membership teamId userIds => rehearsal.collaborators.membership teamId userIds
    | .roster teamId => rehearsal.collaborators.roster teamId
    | .profiles _ =>
      let pia : Profile :=
        { firstName := "Pia", lastName := "Player", email := "pia@example.org" }
      ⟨0, .ok (((∅ : Profiles).insert player pia).insert ⟨9⟩ pia)⟩
  clock _ := .epoch

def answer (userId : UserId) (status : Status) : AttendanceRecord where
  eventId := meeting.id
  teamId := team
  userId := userId
  status := status
  updatedAt := .epoch

/-- Two records of the player, with one of the coach between them. -/
def answers : List AttendanceRecord :=
  [answer player .accepted, answer coach .pending, answer player .declined]

/-- The player reads an event for which the storage lists the given records. -/
def reading (records : List AttendanceRecord) : Except Refusal EventDetails × Talk :=
  (Service.eventDetails settings player meeting.id).converse
    (talkative.beside (archive meeting records []) {})

theorem permits_player :
    talkative.Permits settings player meeting.teamId Role.readers .player :=
  ⟨_, ⟨by decide, rfl⟩, rfl, by decide, by decide⟩

theorem sorted_answers : AttendanceRecord.sorted answers =
    [answer coach .pending, answer player .accepted, answer player .declined] := by
  have hafter : UserId.precedes player coach = false := by decide
  have hequal : UserId.precedes player player = true := by decide
  have hbefore : UserId.precedes coach player = true := by decide
  simp [AttendanceRecord.sorted, answers, answer, List.mergeSort,
    List.MergeSort.Internal.splitInTwo, hafter, hequal, hbefore]

end Sample

/-- Both records of the player are shown in their order, and the coach, who has no profile, is left
out.  Records of two users are told in the same way, whichever is listed first. -/
theorem Service.eventDetails_enriched_sample :
    (∃ userIds sorted,
      Sample.talkative.Enriches Sample.settings Sample.meeting Sample.answers {} userIds sorted
        (Sample.reading Sample.answers).1 (Sample.reading Sample.answers).2 ∧
      userIds = [Sample.coach, Sample.player]) ∧
    (Sample.reading Sample.answers).1.toOption.map (·.attendance.map (·.status)) =
      some [.accepted, .declined] ∧
    (Sample.reading [Sample.answer Sample.coach .pending,
        Sample.answer Sample.player .accepted]).1 =
      (Sample.reading [Sample.answer Sample.player .accepted,
        Sample.answer Sample.coach .pending]).1 := by
  have hrecords : (Sample.archive Sample.meeting Sample.answers []
      (.listAttendance Sample.meeting.id)).value = .ok Sample.answers := rfl
  have hreading : Sample.reading Sample.answers = _ :=
    converse_eventDetails rfl Sample.permits_player hrecords
  rw [Sample.sorted_answers] at hreading
  refine ⟨?_, ?_, ?_⟩
  · obtain ⟨⟨userIds, sorted, henriches⟩, -⟩ :=
      eventDetails_enriched {} rfl Sample.permits_player hrecords
    refine ⟨userIds, sorted, henriches, ?_⟩
    have hasked : (Sample.reading Sample.answers).2.questions.filterMap (·.profiles?) =
        [[Sample.coach, Sample.player]] := by
      rw [hreading]
      rfl
    exact (List.cons.inj (henriches.asked.symm.trans hasked)).1
  · rw [hreading]
    rfl
  · have hother : (Sample.archive Sample.meeting [Sample.answer Sample.player .accepted,
        Sample.answer Sample.coach .pending] [] (.listAttendance Sample.meeting.id)).value =
        .ok [Sample.answer Sample.player .accepted, Sample.answer Sample.coach .pending] := rfl
    obtain ⟨-, hdistinct⟩ := eventDetails_enriched {} rfl Sample.permits_player hother
    obtain ⟨horder, -⟩ := hdistinct (by decide)
    exact horder _ _ rfl rfl (List.Perm.swap _ _ _)

end TeamCalendar
