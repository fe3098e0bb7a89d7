import TeamCalendar.Proofs.Conversation
import TeamCalendar.Proofs.Run

/-!
# Lost answers

An answer of a directory is lost if it comes too late or is a failure.  A request that has lost an
answer is refused as unavailable.  It is not denied, and it does not go on without the answer.  This
goes for all directories, clocks and storages.

* `Service.Candid` says so of a service, and there is a rule for each way to put services together.
* `Visit.unavailable_of_isLost` says so of every request.
-/

namespace TeamCalendar

/-- Whether a directory has failed to answer. -/
def Directory.isFailure : (q : Directory.Question) → Directory.Answer q → Bool
  | .membership .., answer => !(answer : Except String Membership).isOk
  | .roster _, answer => !(answer : Except String (List Member)).isOk
  | .profiles _, answer => !(answer : Except String Profiles).isOk

/-- An answer of a directory is lost if it is late or a failure. -/
def Exchange.IsLost (deadline : Nat) : Exchange → Prop
  | ⟨.directory q, answer⟩ =>
    deadline < (answer : Timed (Directory.Answer q)).delay ∨
      Directory.isFailure q (answer : Timed (Directory.Answer q)).value = true
  | _ => False

/-- No answer of a directory is lost. -/
def Talk.Unbroken (deadline : Nat) (talk : Talk) : Prop :=
  ∀ exchange ∈ talk, ¬ exchange.IsLost deadline

theorem Talk.Unbroken.cons {deadline : Nat} {talk : Talk} {exchange : Exchange}
    (h : talk.Unbroken deadline) (hkept : ¬ exchange.IsLost deadline) :
    Talk.Unbroken deadline (exchange :: talk) :=
  List.forall_mem_cons.2 ⟨hkept, h⟩

namespace Service

variable {α β : Type} {deadline : Nat} {past : Talk}

/-- A refusal after which nothing is lost, or which says that something is. -/
def Owns (deadline : Nat) (talk : Talk) (refusal : Refusal) : Prop :=
  talk.Unbroken deadline ∨ ∃ cause, refusal = .unavailable cause

/-- A service that has lost an answer is refused as unavailable. -/
def Candid (deadline : Nat) (service : Service α) : Prop :=
  ∀ past : Talk, past.Unbroken deadline →
    Keeps (fun _ _ => True) (fun talk _ => talk.Unbroken deadline) (Owns deadline) service past

/-! ## Each building block is candid -/

theorem candid_pure (value : α) : Candid deadline (pure value) :=
  fun _ hpast => keeps_pure hpast

theorem candid_throw (refusal : Refusal) : Candid deadline (throw refusal : Service α) :=
  fun _ hpast => keeps_throw (.inl hpast)

theorem Candid.bind {first : Service β} {next : β → Service α} (h : Candid deadline first)
    (hnext : ∀ value, Candid deadline (next value)) : Candid deadline (first >>= next) :=
  fun past hpast => keeps_bind ((h past hpast).mono (fun talk value htalk => hnext value talk htalk)
    fun _ _ howns => howns)

theorem Candid.map {f : β → α} {service : Service β} (h : Candid deadline service) :
    Candid deadline (f <$> service) := by
  rw [map_eq_pure_bind]
  exact h.bind fun value => candid_pure (f value)

theorem candid_ask {q : Surroundings.Question}
    (hkept : ∀ answer, ¬ Exchange.IsLost deadline ⟨q, answer⟩) : Candid deadline (ask q) :=
  fun _ hpast => keeps_ask trivial fun answer => hpast.cons (hkept answer)

theorem candid_count (occurrence : Occurrence) : Candid deadline (count occurrence) :=
  candid_ask (q := .count occurrence) fun _ => id

theorem candid_now : Candid deadline now :=
  candid_ask (q := .now) fun _ => id

/-- If the latest answer is lost the request is refused as unavailable, and otherwise goes on. -/
theorem keeps_settle_latest {name : String} {answer : Timed (Except String α)}
    {latest : Exchange} (hpast : past.Unbroken deadline)
    (hlost : latest.IsLost deadline ↔ deadline < answer.delay ∨ (!answer.value.isOk) = true) :
    Keeps (fun _ _ => True) (fun talk _ => talk.Unbroken deadline) (Owns deadline)
      (settle deadline name answer) (latest :: past) := by
  have hrefused (cause : String) :
      Keeps (fun _ _ => True) (fun talk _ => talk.Unbroken deadline) (Owns deadline)
        (count .callFailure >>= fun _ => throw (.unavailable cause) : Service α)
        (latest :: past) :=
    keeps_bind (keeps_ask (q := .count .callFailure) trivial fun _ =>
      keeps_throw (.inr ⟨cause, rfl⟩))
  rw [settle]
  split
  · exact hrefused _
  · next hintime =>
    split
    · next value hvalue =>
      refine keeps_pure (hpast.cons fun h => ?_)
      rcases hlost.1 h with hlate | hfailed
      · exact hintime hlate
      · rw [hvalue] at hfailed
        cases hfailed
    · exact hrefused _

theorem candid_membership (settings : RuntimeSettings) (teamId : TeamId) (userIds : List UserId) :
    Candid settings.deadline (membership settings teamId userIds) :=
  fun _ hpast => keeps_bind (keeps_ask trivial fun _ => keeps_settle_latest hpast Iff.rfl)

theorem candid_roster (settings : RuntimeSettings) (teamId : TeamId) :
    Candid settings.deadline (roster settings teamId) :=
  fun _ hpast => keeps_bind (keeps_ask trivial fun _ => keeps_settle_latest hpast Iff.rfl)

theorem candid_profiles (settings : RuntimeSettings) (userIds : List UserId) :
    Candid settings.deadline (profiles settings userIds) :=
  fun _ hpast => keeps_bind (keeps_ask trivial fun _ => keeps_settle_latest hpast Iff.rfl)

theorem candid_stored (answer : Timed (Except String α)) : Candid deadline (stored answer) := by
  rw [stored]
  split
  · exact candid_pure _
  · exact (candid_count _).bind fun _ => candid_throw _

theorem candid_ofFlaw (result : Except EventFlaw α) : Candid deadline (ofFlaw result) := by
  cases result with
  | ok value => exact candid_pure value
  | error flaw => exact candid_throw _

/-- What is asked of the storage is never lost; it may be refused. -/
theorem candid_storage (q : Storage.Question) : Candid deadline (ask (.storage q)) :=
  candid_ask fun _ => id

/-- A refusal stays the same when the transaction is rolled back. -/
theorem candid_inTransaction {body : Service α} (h : Candid deadline body) :
    Candid deadline (inTransaction body) := by
  refine (candid_storage _).bind fun _ => (candid_stored _).bind fun _ => ?_
  have hcommitted : Candid deadline (do
      let value ← body
      stored (← ask (.storage .commit))
      pure value) :=
    h.bind fun value => (candid_storage _).bind fun _ => (candid_stored _).bind fun _ =>
      candid_pure value
  -- the body may have lost an answer already, so the rule for what starts unbroken does not apply
  refine fun past hpast => keeps_tryCatch ((hcommitted past hpast).mono (fun _ _ htalk => htalk)
    fun talk refusal howns => keeps_bind (keeps_ask trivial fun _ => keeps_throw ?_))
  exact howns.imp (fun htalk => htalk.cons id) id

theorem candid_publish (kind : ChangeKind) (event : Event) (actorId : UserId)
    (attendanceStatus : Option Status) :
    Candid deadline (publish kind event actorId attendanceStatus) :=
  candid_now.bind fun _ => candid_ask fun _ => id

/-- A success is counted and made known, and nothing is lost by it. -/
theorem candid_announce (occurrence : Occurrence) (kind : ChangeKind) (event : Event)
    (actorId : UserId) (attendanceStatus : Option Status) (value : α) :
    Candid deadline (do
      count occurrence
      publish kind event actorId attendanceStatus
      pure value) :=
  (candid_count occurrence).bind fun _ => (candid_publish _ _ _ _).bind fun _ => candid_pure value

theorem candid_authorize (settings : RuntimeSettings) (requester : UserId) (teamId : TeamId)
    (required : List Role) :
    Candid settings.deadline (authorize settings requester teamId required) := by
  refine (candid_membership settings teamId [requester]).bind fun membership => ?_
  cases decide? requester membership required with
  | some role => exact candid_pure role
  | none => exact candid_throw .forbidden

theorem candid_findEvent (id : EventId) : Candid deadline (findEvent id) := by
  refine (candid_storage _).bind fun answer => (candid_stored _).bind fun event? => ?_
  cases event? with
  | none => exact candid_throw _
  | some event => exact candid_pure event

theorem candid_insertAttendance (records : List AttendanceRecord) :
    Candid deadline (insertAttendance records) := by
  refine (candid_storage _).bind fun answer => (candid_stored _).bind fun written => ?_
  split
  · exact candid_pure written
  · exact (candid_count _).bind fun _ => candid_throw _

/-! ## Each request is candid -/

theorem candid_writeRecords (event : Event) (records : List AttendanceRecord) :
    Candid deadline (writeRecords event records) := by
  rw [writeRecords]
  split
  · exact candid_pure _
  · exact (candid_insertAttendance records).bind fun _ => candid_pure _

theorem candid_storeEvent (settings : RuntimeSettings) (new : NewEvent) :
    Candid settings.deadline (storeEvent settings new) := by
  rw [storeEvent_eq]
  refine (candid_ofFlaw _).bind fun _ => (candid_roster settings _).bind fun roster =>
    candid_inTransaction ?_
  exact (candid_storage _).bind fun _ => (candid_stored _).bind fun _ => candid_now.bind fun _ =>
    candid_writeRecords _ _

theorem candid_createEvent (settings : RuntimeSettings) (requester : UserId) (new : NewEvent) :
    Candid settings.deadline (createEvent settings requester new) :=
  (candid_ofFlaw _).bind fun _ => (candid_authorize settings _ _ _).bind fun _ =>
    (candid_storeEvent settings new).bind fun _ => candid_announce _ _ _ _ _ _

theorem candid_writeChange (teamId : TeamId) (id : EventId) (patch : Patch) (current : Event) :
    Candid deadline (writeChange teamId id patch current) := by
  rw [writeChange]
  split
  · refine (candid_ofFlaw _).bind fun changed => (candid_storage _).bind fun _ =>
      (candid_stored _).bind fun written => ?_
    cases written with
    | true => exact candid_pure changed
    | false => exact candid_throw _
  · exact candid_throw _

theorem candid_writePatch (teamId : TeamId) (id : EventId) (patch : Patch) :
    Candid deadline (writePatch teamId id patch) := by
  refine (candid_storage _).bind fun _ => (candid_stored _).bind fun current? => ?_
  cases current? with
  | none => exact candid_throw _
  | some current => exact candid_writeChange teamId id patch current

theorem candid_storePatch (teamId : TeamId) (id : EventId) (patch : Patch) :
    Candid deadline (storePatch teamId id patch) := by
  by_cases hempty : patch.isEmpty = true
  · rw [storePatch_of_isEmpty hempty]
    exact candid_throw _
  · rw [storePatch_of_not_isEmpty hempty]
    exact candid_inTransaction (candid_writePatch teamId id patch)

theorem candid_updateEvent (settings : RuntimeSettings) (requester : UserId) (teamId : TeamId)
    (id : EventId) (patch : Patch) :
    Candid settings.deadline (updateEvent settings requester teamId id patch) :=
  (candid_authorize settings _ _ _).bind fun _ => (candid_storePatch teamId id patch).bind fun _ =>
    candid_announce _ _ _ _ _ _

theorem candid_writeStatus (id : EventId) (userId : UserId) (status : Status) :
    Candid deadline (writeStatus id userId status) := by
  refine candid_now.bind fun time => (candid_storage _).bind fun _ =>
    (candid_stored _).bind fun written => ?_
  cases written with
  | true => exact candid_pure ()
  | false => exact candid_throw _

theorem candid_respond (settings : RuntimeSettings) (requester : UserId) (id : EventId)
    (status : Status) : Candid settings.deadline (respond settings requester id status) := by
  refine (candid_findEvent id).bind fun event => (candid_authorize settings _ _ _).bind fun _ =>
    Candid.bind ?_ fun _ => candid_announce _ _ _ _ _ _
  rw [storeStatus_eq]
  exact candid_inTransaction (candid_writeStatus id requester status)

theorem candid_join (records : List AttendanceRecord) (profiles : Profiles) :
    Candid deadline (join records profiles) := by
  rw [join]
  split
  · exact (candid_count _).bind fun _ => candid_pure _
  · exact candid_pure _

theorem candid_details (settings : RuntimeSettings) (event : Event)
    (records : List AttendanceRecord) :
    Candid settings.deadline (details settings event records) := by
  rw [details]
  split
  · exact (candid_join records ∅).bind fun _ => candid_pure _
  · exact (candid_profiles settings _).bind fun profiles =>
      (candid_join records profiles).bind fun _ => candid_pure _

theorem candid_eventDetails (settings : RuntimeSettings) (requester : UserId) (id : EventId) :
    Candid settings.deadline (eventDetails settings requester id) := by
  rw [eventDetails_eq]
  exact (candid_findEvent id).bind fun event => (candid_authorize settings _ _ _).bind fun _ =>
    (candid_storage _).bind fun _ => (candid_stored _).bind fun records =>
      candid_details settings event _

theorem candid_teamEvents (settings : RuntimeSettings) (requester : UserId) (teamId : TeamId) :
    Candid settings.deadline (teamEvents settings requester teamId) :=
  (candid_authorize settings _ _ _).bind fun _ =>
    Candid.map ((candid_storage _).bind fun answer => candid_stored answer)

end Service

namespace Visit

theorem candid_service (visit : Visit) :
    Service.Candid visit.settings.deadline visit.service := by
  rw [Visit.service]
  cases visit.operation with
  | create new => exact (Service.candid_createEvent visit.settings _ new).map
  | update teamId id patch => exact (Service.candid_updateEvent visit.settings _ _ _ patch).map
  | respond id status => exact (Service.candid_respond visit.settings _ _ status).map
  | read id => exact (Service.candid_eventDetails visit.settings _ id).map
  | list teamId => exact (Service.candid_teamEvents visit.settings _ teamId).map

/-- A request that has lost an answer of a directory is refused as unavailable, whoever answers. -/
theorem unavailable_of_isLost (visit : Visit) (respond : Respondent) {exchange : Exchange}
    (hmem : exchange ∈ (visit.service.converse respond).2)
    (hlost : exchange.IsLost visit.settings.deadline) :
    ∃ cause, (visit.service.converse respond).1 = .error (.unavailable cause) := by
  have hkeeps := visit.candid_service [] (fun _ hnone => absurd hnone List.not_mem_nil)
  obtain ⟨-, hend⟩ := hkeeps.converse trivial respond
  change Service.outcome _ _ (visit.service.converse respond).2
    (visit.service.converse respond).1 at hend
  generalize (visit.service.converse respond).1 = result at hend
  cases result with
  | ok reply => exact absurd hlost (hend exchange hmem)
  | error refusal =>
    rcases hend with hunbroken | ⟨cause, rfl⟩
    · exact absurd hlost (hunbroken exchange hmem)
    · exact ⟨cause, rfl⟩

end Visit

end TeamCalendar
