import TeamCalendar.Proofs.Conversation
import TeamCalendar.Proofs.Scene.Consultation
import TeamCalendar.Proofs.Scene.Rehearsal

/-!
# Collaborators beside a storage

The directories and the clock may stand beside any storage; nothing is assumed of what it answers.

* `Collaborators.beside` answers for both, and keeps the counters.
* `Service.resume` goes on with a request after what has been said.  The lemmas say what each
  building block of the service does to a talk.
-/

namespace TeamCalendar

/-- What a storage answers. -/
abbrev Storage.Replies :=
  (q : Storage.Question) → Timed (Storage.Answer q)

/-- The counters after a question. -/
def Surroundings.Question.counted (q : Surroundings.Question) (tally : Tally) : Tally :=
  match q with
  | count occurrence => tally.add occurrence
  | _ => tally

/-- The counters after a talk. -/
def Talk.tally (start : Tally) (talk : Talk) : Tally :=
  talk.questions.foldr (·.counted ·) start

/-- Directories and a clock beside a storage, with counters that start from the given ones. -/
def Collaborators.beside (c : Collaborators) (storage : Storage.Replies) (start : Tally) :
    Respondent := fun past q =>
  match q with
  | .directory q => c.directory q
  | .storage q => storage q
  | .now => c.clock past.questions
  | .count _ | .publish _ => ()
  | .tally => past.tally start

theorem Dialogue.converse_bind {α β : Type} (respond : Respondent)
    (first : Dialogue Surroundings β) (next : β → Dialogue Surroundings α) (past : Talk) :
    (first.bind next).converse respond past =
      (next (first.converse respond past).1).converse respond (first.converse respond past).2 := by
  induction first generalizing past with
  | done value => rfl
  | ask q rest ih => exact ih _ _

namespace Service

variable {α β : Type}

/-- Goes on with a request after what has been said. -/
def resume (respond : Respondent) (service : Service α) (past : Talk) : Except Refusal α × Talk :=
  (ExceptT.run service).converse respond past

section Sequencing

variable {respond : Respondent} {first : Service β} {next : β → Service α} {past talk : Talk}

theorem resume_bind_ok {value : β} (h : first.resume respond past = (.ok value, talk)) :
    (first >>= next).resume respond past = (next value).resume respond talk := by
  refine (Dialogue.converse_bind respond (ExceptT.run first) (ExceptT.bindCont next) past).trans ?_
  rw [← resume, h]
  rfl

theorem resume_bind_error {refusal : Refusal}
    (h : first.resume respond past = (.error refusal, talk)) :
    (first >>= next).resume respond past = (.error refusal, talk) := by
  refine (Dialogue.converse_bind respond (ExceptT.run first) (ExceptT.bindCont next) past).trans ?_
  rw [← resume, h]
  rfl

theorem resume_map_ok {f : β → α} {value : β}
    (h : first.resume respond past = (.ok value, talk)) :
    (f <$> first).resume respond past = (.ok (f value), talk) := by
  rw [map_eq_pure_bind]
  exact resume_bind_ok h

theorem resume_ask (respond : Respondent) (q : Surroundings.Question) (past : Talk) :
    (ask q).resume respond past = (.ok (respond past q), ⟨q, respond past q⟩ :: past) :=
  rfl

theorem resume_stored_ok {answer : Timed (Except String α)} {value : α}
    (h : answer.value = .ok value) : (stored answer).resume respond past = (.ok value, past) := by
  rw [stored, h]
  rfl

end Sequencing

variable {c : Collaborators} {storage : Storage.Replies} {start : Tally} {past : Talk}
  {settings : RuntimeSettings}

/-- A directory that fails is counted. -/
theorem resume_settle (deadline : Nat) (name : String) (answer : Timed (Except String α)) :
    (settle deadline name answer).resume (c.beside storage start) past =
      (answer.verdict deadline name,
        match answer.verdict deadline name with
        | .ok _ => past
        | .error _ => ⟨.count .callFailure, ()⟩ :: past) := by
  unfold settle Timed.verdict
  by_cases hlate : deadline < answer.delay
  · rw [if_pos hlate, if_pos hlate]
    exact resume_bind_ok (resume_ask _ _ _)
  · rw [if_neg hlate, if_neg hlate]
    cases answer.value with
    | ok value => rfl
    | error cause => exact resume_bind_ok (resume_ask _ _ _)

theorem resume_settle_ok {deadline : Nat} {name : String} {answer : Timed (Except String α)}
    {value : α} (h : answer.verdict deadline name = .ok value) :
    (settle deadline name answer).resume (c.beside storage start) past = (.ok value, past) := by
  rw [resume_settle, h]

theorem resume_settle_error {deadline : Nat} {name : String} {answer : Timed (Except String α)}
    {refusal : Refusal} (h : answer.verdict deadline name = .error refusal) :
    (settle deadline name answer).resume (c.beside storage start) past =
      (.error refusal, ⟨.count .callFailure, ()⟩ :: past) := by
  rw [resume_settle, h]

/-- Profiles that are told in time. -/
theorem resume_profiles_ok {userIds : List UserId} {profiles : Profiles}
    (hgives : (c.profiles userIds).Gives settings.deadline profiles) :
    (Service.profiles settings userIds).resume (c.beside storage start) past =
      (.ok profiles, ⟨.directory (.profiles userIds), c.profiles userIds⟩ :: past) := by
  unfold Service.profiles
  refine (resume_bind_ok (resume_ask _ _ _)).trans ?_
  exact resume_settle_ok (Timed.verdict_eq_ok_iff.2 hgives)

theorem resume_profiles_error {userIds : List UserId} {refusal : Refusal}
    (h : (c.profiles userIds).verdict settings.deadline "get_profiles" = .error refusal) :
    (Service.profiles settings userIds).resume (c.beside storage start) past =
      (.error refusal, ⟨.count .callFailure, ()⟩ ::
        ⟨.directory (.profiles userIds), c.profiles userIds⟩ :: past) := by
  unfold Service.profiles
  refine (resume_bind_ok (resume_ask _ _ _)).trans ?_
  exact resume_settle_error h

/-- The team directory shows that the requester has a permitted role. -/
theorem resume_authorize_ok {requester : UserId} {teamId : TeamId} {required : List Role}
    {role : Role} (hpermits : c.Permits settings requester teamId required role) :
    (authorize settings requester teamId required).resume (c.beside storage start) past =
      (.ok role, ⟨.directory (.membership teamId [requester]),
        c.membership teamId [requester]⟩ :: past) := by
  obtain ⟨membership, hgives, hrole⟩ := hpermits
  have hmembership : (Service.membership settings teamId [requester]).resume
      (c.beside storage start) past = (.ok membership,
        ⟨.directory (.membership teamId [requester]),
          c.membership teamId [requester]⟩ :: past) := by
    unfold Service.membership
    refine (resume_bind_ok (resume_ask _ _ _)).trans ?_
    exact resume_settle_ok (Timed.verdict_eq_ok_iff.2 hgives)
  unfold authorize
  refine (resume_bind_ok hmembership).trans ?_
  rw [decide?_eq_some_iff.2 hrole]
  rfl

theorem resume_findEvent_ok {id : EventId} {event : Event}
    (hevent : (storage (.findEvent id)).value = .ok (some event)) :
    (findEvent id).resume (c.beside storage start) past =
      (.ok event, ⟨.storage (.findEvent id), storage (.findEvent id)⟩ :: past) := by
  unfold findEvent
  refine (resume_bind_ok (resume_ask _ _ _)).trans ?_
  exact resume_bind_ok (resume_stored_ok hevent)

end Service

/-- A stored event of the team. -/
def Sample.meeting : Event :=
  { Sample.training with id := ⟨7⟩ }

/-- A storage from which an event, its records and the events of a team are read, and to which
nothing can be written. -/
def Sample.archive (event : Event) (records : List AttendanceRecord) (events : List Event) :
    Storage.Replies
  | .findEvent _ => ⟨0, .ok (some event)⟩
  | .listAttendance _ => ⟨0, .ok records⟩
  | .listTeamEvents _ => ⟨0, .ok events⟩
  | .begin | .ping | .commit | .lockEvent _ | .insertEvent _ | .insertAttendance _
  | .updateEvent _ | .updateStatus .. => ⟨0, .error "read only"⟩
  | .rollback => ⟨0, ()⟩

end TeamCalendar
