import TeamCalendar.Directory.Client
import TeamCalendar.Proofs.CommitDiscipline
import TeamCalendar.Proofs.Directory.Losses
import TeamCalendar.Standalone

/-!
# Replies of the directories

A directory on the web has failed if its reply has a status between 400 and 599, or a body that cannot
be read.  A reply with any other status is taken at its word, whatever the status, so that an odd
status over an empty record says that a team is empty or that nobody is known.

* `Directory.heard` is the answer that comes of a reply.
* `Directory.isFailure_heard_iff` says which replies are failures, and what a request comes to that
  gets one.
* `Standalone.consult_eq` says that this is what the running service hears.
-/

namespace TeamCalendar

namespace Directory

variable {reply : Web.Reply} {url : String} {q : Question}

/-- The answer of the directory at an address to which every message is replied in the same way. -/
def heard (reply : Except Web.Failure Web.Reply) (url : String) (q : Question) : Answer q :=
  answerOf q (Id.run ((ask url q).interpret fun _ => pure reply))

theorem heard_membership (reply : Except Web.Failure Web.Reply) (url : String) (teamId : TeamId)
    (userIds : List UserId) :
    heard reply url (.membership teamId userIds) = Except.mapError ClientFailure.message
      ((receive (.membership teamId userIds) membershipCodec reply).map membershipOf) :=
  rfl

theorem heard_roster (reply : Except Web.Failure Web.Reply) (url : String) (teamId : TeamId) :
    heard reply url (.roster teamId) = Except.mapError ClientFailure.message
      ((receive (.roster teamId) rosterCodec reply).map rosterOf) :=
  rfl

theorem heard_profiles (reply : Except Web.Failure Web.Reply) (url : String) (userId : UserId)
    (userIds : List UserId) :
    heard reply url (.profiles (userId :: userIds)) = Except.mapError ClientFailure.message
      ((receive (.profiles (userId :: userIds)) profilesCodec reply).map profilesOf) :=
  rfl

/-- Whether a body is of the form in which a question is answered. -/
def isReadable (body : List UInt8) : Question → Bool
  | .membership .. => (membershipCodec.decode body).isOk
  | .roster _ => (rosterCodec.decode body).isOk
  | .profiles _ => (profilesCodec.decode body).isOk

/-- A question that is sent to a directory; nobody is asked for the profiles of no users. -/
def Question.isSent : Question → Bool
  | .profiles [] => false
  | _ => true

/-- A reply answers a question if its status does not say error and its body can be read. -/
theorem isOk_receive {α β : Type} (codec : Json.Codec α) (f : α → β) :
    (Except.mapError ClientFailure.message ((receive q codec (.ok reply)).map f)).isOk =
      (!reply.isError && (codec.decode reply.body).isOk) := by
  simp only [receive]
  cases reply.isError with
  | true => rfl
  | false =>
    cases codec.decode reply.body with
    | error fault => rfl
    | ok value => rfl

theorem isFailure_heard (hsent : q.isSent = true) :
    isFailure q (heard (.ok reply) url q) = !(!reply.isError && isReadable reply.body q) := by
  cases q with
  | membership teamId userIds => exact congrArg Bool.not (isOk_receive membershipCodec membershipOf)
  | roster teamId => exact congrArg Bool.not (isOk_receive rosterCodec rosterOf)
  | profiles userIds =>
    cases userIds with
    | nil => cases hsent
    | cons userId userIds => exact congrArg Bool.not (isOk_receive profilesCodec profilesOf)

theorem receive_of_not_isError {α : Type} (codec : Json.Codec α) (hcalm : reply.isError = false) :
    receive q codec (.ok reply) = (codec.decode reply.body).mapError fun _ => .undecodable := by
  simp only [receive, hcalm]
  rfl

/-- Of a status it only counts whether it says error. -/
theorem receive_congr {α : Type} (codec : Json.Codec α) {other : Web.Reply}
    (hcalm : reply.isError = false) (hother : other.isError = false)
    (hbody : reply.body = other.body) :
    receive q codec (.ok reply) = receive q codec (.ok other) := by
  rw [receive_of_not_isError codec hcalm, receive_of_not_isError codec hother, hbody]

theorem heard_congr {other : Web.Reply} (hcalm : reply.isError = false)
    (hother : other.isError = false) (hbody : reply.body = other.body) :
    heard (.ok reply) url q = heard (.ok other) url q := by
  cases q with
  | membership teamId userIds =>
    rw [heard_membership, heard_membership, receive_congr membershipCodec hcalm hother hbody]
  | roster teamId =>
    rw [heard_roster, heard_roster, receive_congr rosterCodec hcalm hother hbody]
  | profiles userIds =>
    cases userIds with
    | nil => rfl
    | cons userId userIds =>
      rw [heard_profiles, heard_profiles, receive_congr profilesCodec hcalm hother hbody]

theorem isError_iff (reply : Web.Reply) :
    reply.isError = true ↔ 400 ≤ reply.status ∧ reply.status ≤ 599 := by
  rw [Web.Reply.isError, Bool.and_eq_true, decide_eq_true_eq, decide_eq_true_eq]

/-- A directory has failed exactly if the status of its reply lies between 400 and 599 or the body
cannot be read.  With any other status the reply is taken as if the status were 200.  A request that
gets a failure is refused as unavailable, whoever else answers. -/
theorem isFailure_heard_iff (hsent : q.isSent = true) (reply : Web.Reply) (url : String) :
    (isFailure q (heard (.ok reply) url q) = true ↔
      400 ≤ reply.status ∧ reply.status ≤ 599 ∨ isReadable reply.body q = false) ∧
    (¬ (400 ≤ reply.status ∧ reply.status ≤ 599) →
      heard (.ok reply) url q = heard (.ok { reply with status := 200 }) url q) ∧
    ∀ (visit : Visit) (respond : Respondent) (delay : Nat),
      isFailure q (heard (.ok reply) url q) = true →
      Exchange.mk (.directory q) ⟨delay, heard (.ok reply) url q⟩ ∈
        (visit.service.converse respond).2 →
      ∃ cause, (visit.service.converse respond).1 = .error (.unavailable cause) := by
  refine ⟨?_, ?_, ?_⟩
  · rw [isFailure_heard hsent, ← isError_iff]
    cases reply.isError <;> simp
  · intro hstatus
    exact heard_congr (Bool.eq_false_iff.2 (mt (isError_iff reply).1 hstatus)) rfl rfl
  · intro visit respond delay hfailure hmem
    exact visit.unavailable_of_isLost respond hmem (.inr hfailure)

end Directory

namespace Standalone

/-- What the running service hears from a directory is what comes of its reply. -/
theorem consult_eq {q : Directory.Question} (hsent : q.isSent = true) :
    consult q = (do
      let url := directoryUrl (← get).directories q
      let reply ← ask (.web (Directory.message url q))
      pure (Timed.mk (Timed.delay reply) (Directory.heard (Timed.value reply) url q))) := by
  have hadded : consult q = (do
      let url := directoryUrl (← get).directories q
      let reply ← ask (.web (Directory.message url q))
      pure (Timed.mk (0 + Timed.delay reply) (Directory.heard (Timed.value reply) url q))) := by
    cases q with
    | membership teamId userIds => rfl
    | roster teamId => rfl
    | profiles userIds =>
      cases userIds with
      | nil => cases hsent
      | cons userId userIds => rfl
  simpa only [Nat.zero_add] using hadded

end Standalone

/-- A reply with the given status and an empty record. -/
def Sample.empty (status : Nat) : Web.Reply :=
  ⟨status, Text.bytesOf "\x7b\x7d"⟩

/-- Directories that give the same reply to every message. -/
def Sample.answering (reply : Web.Reply) : Respondent
  | _, .directory q => ⟨0, Directory.heard (.ok reply) "http://127.0.0.1:8081" q⟩
  | talk, q => Sample.lossy talk q

/-- A directory that is overloaded has failed, and the coach is not denied but put off. -/
theorem Directory.isFailure_heard_iff_sample :
    Directory.Question.isSent (.membership Sample.team [Sample.coach]) = true ∧
      Directory.isFailure (.membership Sample.team [Sample.coach])
        (Directory.heard (.ok (Sample.empty 503)) "http://127.0.0.1:8081" _) = true ∧
      ∃ cause, ((Sample.visit Sample.coach (.create Sample.training)).service.converse
        (Sample.answering (Sample.empty 503))).1 = .error (.unavailable cause) := by
  obtain ⟨hiff, -, hrefused⟩ := Directory.isFailure_heard_iff
    (q := .membership Sample.team [Sample.coach]) rfl (Sample.empty 503) "http://127.0.0.1:8081"
  have hfailure := hiff.2 (.inl ⟨by decide, by decide⟩)
  exact ⟨rfl, hfailure, hrefused _ _ 0 hfailure (List.mem_cons_of_mem _ List.mem_cons_self)⟩

/-- Directories that know nobody. -/
def Sample.nobody : Respondent
  | _, .directory (.membership ..) => ⟨0, .ok ∅⟩
  | _, .directory (.roster _) => ⟨0, .ok []⟩
  | _, .directory (.profiles _) => ⟨0, .ok ∅⟩
  | talk, q => Sample.lossy talk q

theorem Sample.receive_empty {α : Type} {q : Directory.Question} (codec : Json.Codec (List α))
    (hdecode : (codec.decode (Sample.empty 300).body).toOption = some []) :
    Directory.receive q codec (.ok (Sample.empty 300)) = .ok [] := by
  rw [Directory.receive_of_not_isError codec rfl]
  cases hbody : codec.decode (Sample.empty 300).body with
  | error fault =>
    rw [hbody] at hdecode
    cases hdecode
  | ok entries =>
    rw [hbody] at hdecode
    cases hdecode
    rfl

/-- A status outside of 200 to 299 that does not say error: the directories are taken to know nobody,
and the coach is denied. -/
theorem Directory.exists_status_not_failure :
    Sample.answering (Sample.empty 300) = Sample.nobody ∧
      ((Sample.visit Sample.coach (.create Sample.training)).service.converse
        (Sample.answering (Sample.empty 300))).1 = .error .forbidden := by
  have hnobody : Sample.answering (Sample.empty 300) = Sample.nobody := by
    funext talk q
    cases q with
    | directory asked =>
      cases asked with
      | membership teamId userIds =>
        refine congrArg (Timed.mk 0) ((Directory.heard_membership _ _ _ _).trans ?_)
        rw [Sample.receive_empty Directory.membershipCodec (by decide +kernel)]
        rfl
      | roster teamId =>
        refine congrArg (Timed.mk 0) ((Directory.heard_roster _ _ _).trans ?_)
        rw [Sample.receive_empty Directory.rosterCodec (by decide +kernel)]
        rfl
      | profiles userIds =>
        cases userIds with
        | nil => rfl
        | cons userId userIds =>
          refine congrArg (Timed.mk 0) ((Directory.heard_profiles _ _ _ _).trans ?_)
          rw [Sample.receive_empty Directory.profilesCodec (by decide +kernel)]
          rfl
    | storage asked => rfl
    | now => rfl
    | count occurrence => rfl
    | tally => rfl
    | publish change => rfl
  refine ⟨hnobody, ?_⟩
  rw [hnobody]
  rfl

end TeamCalendar
