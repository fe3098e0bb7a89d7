import TeamCalendar.Proofs.Conversation
import TeamCalendar.Proofs.Run

/-!
# The protocol of a request

What a request may ask of its surroundings depends on what has been said before.  Above all it
depends on how far the request has come with its transaction.

* `Talk.phase` says how far a request has come.
* `Visit.Earned` says what must have been asked and answered before a commit, and what the request
  will then be answered.
* `Visit.Allows` says what a request may ask next.
* `Visit.keeps_service` says that every request keeps to it, whatever it is answered.
-/

namespace TeamCalendar

/-- How far a request has come with its transaction. -/
inductive Phase where
  /-- It has not begun one. -/
  | outside
  /-- It has one that is open. -/
  | inside
  /-- It has failed to commit it. -/
  | failing
  /-- It has committed it. -/
  | settled
  /-- It could not begin it, or has rolled it back. -/
  | over
  deriving DecidableEq

/-- The phase that an exchange leads to, if it leads to another one. -/
def Exchange.turn? : Exchange → Option Phase
  | ⟨.storage .begin, answer⟩ =>
    match (answer : Timed (Except String Unit)).value with
    | .ok () => some .inside
    | .error _ => some .over
  | ⟨.storage .commit, answer⟩ =>
    match (answer : Timed (Except String Unit)).value with
    | .ok () => some .settled
    | .error _ => some .failing
  | ⟨.storage .rollback, _⟩ => some .over
  | _ => none

/-- Whether a question opens or closes a transaction. -/
def Storage.Question.isTurn : Storage.Question → Bool
  | begin | commit | rollback => true
  | _ => false

/-- The question of an exchange, if it is one to the storage. -/
def Exchange.toStorage? (exchange : Exchange) : Option Storage.Question :=
  match exchange.question with
  | .storage q => some q
  | _ => none

/-- The question and the answer of an exchange, if it is one with the storage. -/
def Exchange.dealing? : Exchange → Option (Σ q : Storage.Question, Storage.Answer q)
  | ⟨.storage q, answer⟩ => some ⟨q, (answer : Timed (Storage.Answer q)).value⟩
  | _ => none

namespace Talk

/-- The phase that a request is in after a talk. -/
def phase : Talk → Phase
  | [] => .outside
  | exchange :: past => exchange.turn?.getD (phase past)

/-- The questions to the storage. -/
def toStorage (talk : Talk) : List Storage.Question :=
  talk.filterMap (·.toStorage?)

/-- The questions to the storage, with the answers. -/
def dealings (talk : Talk) : List (Σ q : Storage.Question, Storage.Answer q) :=
  talk.filterMap (·.dealing?)

/-- The storage has given an answer to a question. -/
def Stored (talk : Talk) (q : Storage.Question) (answer : Storage.Answer q) : Prop :=
  ∃ delay, Exchange.mk (.storage q) ⟨delay, answer⟩ ∈ talk

/-- An event and attendance records for it have been written, the records with one question or, if
there are none, with none.  No more has been asked of the storage. -/
def Wrote (talk : Talk) (new : NewEvent) (event : Event) (records : List AttendanceRecord) : Prop :=
  talk.dealings =
    (if records = [] then [] else [⟨.insertAttendance records, .ok records.length⟩]) ++
      [⟨.insertEvent new, .ok event⟩, ⟨.begin, .ok ()⟩]

/-- One talk goes on from another one without a question to the storage. -/
inductive Aside (past : Talk) : Talk → Prop where
  | refl : Aside past past
  | cons {talk : Talk} (h : Aside past talk) {exchange : Exchange}
    (hexchange : exchange.toStorage? = none) : Aside past (exchange :: talk)

end Talk

theorem Talk.Stored.mem_dealings {talk : Talk} {q : Storage.Question} {answer : Storage.Answer q}
    (h : talk.Stored q answer) : ⟨q, answer⟩ ∈ talk.dealings := by
  obtain ⟨delay, hmem⟩ := h
  exact List.mem_filterMap.2 ⟨_, hmem, rfl⟩

theorem Talk.Stored.cons {talk : Talk} {q : Storage.Question} {answer : Storage.Answer q}
    (h : talk.Stored q answer) {exchange : Exchange} :
    Talk.Stored (exchange :: talk) q answer := by
  obtain ⟨delay, hdelay⟩ := h
  exact ⟨delay, List.mem_cons_of_mem _ hdelay⟩

theorem Talk.stored_head {past : Talk} {q : Storage.Question} {answer : Timed (Storage.Answer q)}
    {value : Storage.Answer q} (h : answer.value = value) :
    Talk.Stored (⟨.storage q, answer⟩ :: past) q value := by
  subst h
  exact ⟨answer.delay, List.mem_cons_self⟩

theorem Talk.Stored.head_or_tail {past : Talk} {exchange : Exchange} {q : Storage.Question}
    {answer : Storage.Answer q} (h : Talk.Stored (exchange :: past) q answer) :
    (∃ delay, exchange = ⟨.storage q, ⟨delay, answer⟩⟩) ∨ past.Stored q answer := by
  obtain ⟨delay, hmem⟩ := h
  rcases List.mem_cons.1 hmem with hhead | hpast
  · exact .inl ⟨delay, hhead.symm⟩
  · exact .inr ⟨delay, hpast⟩

theorem Exchange.dealing?_eq_none {exchange : Exchange} (h : exchange.toStorage? = none) :
    exchange.dealing? = none := by
  obtain ⟨question, answer⟩ := exchange
  cases question with
  | storage q => cases h
  | _ => rfl

/-- The phase turns only with a question that opens or closes a transaction. -/
theorem Exchange.turn?_eq_none {exchange : Exchange}
    (h : ∀ q ∈ exchange.toStorage?, q.isTurn = false) : exchange.turn? = none := by
  obtain ⟨question, answer⟩ := exchange
  cases question with
  | storage q =>
    cases q with
    | begin => exact Bool.noConfusion (h .begin rfl)
    | commit => exact Bool.noConfusion (h .commit rfl)
    | rollback => exact Bool.noConfusion (h .rollback rfl)
    | _ => rfl
  | _ => rfl

theorem Talk.phase_cons {past : Talk} {exchange : Exchange}
    (h : ∀ q ∈ exchange.toStorage?, q.isTurn = false) :
    Talk.phase (exchange :: past) = past.phase := by
  rw [phase, Exchange.turn?_eq_none h, Option.getD_none]

/-- No transaction has been opened or closed by the time that a request is outside of one. -/
theorem Talk.stays_of_outside {past : Talk} {exchange : Exchange}
    (h : Talk.phase (exchange :: past) = .outside) :
    ∀ q ∈ exchange.toStorage?, q.isTurn = false := by
  obtain ⟨question, answer⟩ := exchange
  intro q hq
  cases question with
  | storage q' =>
    cases hq
    cases q with
    | begin =>
      obtain ⟨delay, value⟩ := answer
      cases value with
      | ok => cases h
      | error cause => cases h
    | commit =>
      obtain ⟨delay, value⟩ := answer
      cases value with
      | ok => cases h
      | error cause => cases h
    | rollback => cases h
    | _ => rfl
  | _ => cases hq

/-- A request that is in a transaction has just opened it, or goes on in it. -/
theorem Talk.begun_or_stays_of_inside {past : Talk} {exchange : Exchange}
    (h : Talk.phase (exchange :: past) = .inside) :
    exchange.question = .storage .begin ∨ ∀ q ∈ exchange.toStorage?, q.isTurn = false := by
  obtain ⟨question, answer⟩ := exchange
  cases question with
  | storage q =>
    cases q with
    | begin => exact .inl rfl
    | commit =>
      obtain ⟨delay, value⟩ := answer
      cases value with
      | ok => cases h
      | error cause => cases h
    | rollback => cases h
    | _ => exact .inr fun _ hq => by cases hq; rfl
  | _ => exact .inr fun _ hq => by cases hq

namespace Talk.Aside

variable {past talk : Talk}

theorem trans {talk' : Talk} (h : Aside past talk) (h' : Aside talk talk') : Aside past talk' := by
  induction h' with
  | refl => exact h
  | cons _ hexchange ih => exact ih.cons hexchange

theorem phase_eq (h : Aside past talk) : talk.phase = past.phase := by
  induction h with
  | refl => rfl
  | cons _ hexchange ih => rw [phase_cons (by simp [hexchange]), ih]

theorem dealings_eq (h : Aside past talk) : talk.dealings = past.dealings := by
  induction h with
  | refl => rfl
  | cons _ hexchange ih =>
    rw [dealings, List.filterMap_cons_none (Exchange.dealing?_eq_none hexchange), ← dealings, ih]

theorem mem (h : Aside past talk) {exchange : Exchange} (hpast : exchange ∈ past) :
    exchange ∈ talk := by
  induction h with
  | refl => exact hpast
  | cons _ _ ih => exact List.mem_cons_of_mem _ ih

end Talk.Aside

/-! ## What is earned and what is allowed -/

/-- Whether an operation writes. -/
def Operation.writes : Operation → Bool
  | create _ | update .. | respond .. => true
  | read _ | list _ => false

/-- Whether the occurrence is that of an operation that has succeeded. -/
def Occurrence.isSuccess : Occurrence → Bool
  | eventCreated _ | eventUpdated | attendanceResponse => true
  | profileMisses _ | callFailure | storageError => false

namespace Talk

/-- The event has been written, and a record for each user of the roster with one question, if there
are any.  No more has been asked of the storage. -/
inductive Creates (talk : Talk) (deadline : Nat) (new : NewEvent) (created : CreatedEvent) :
    Prop where
  | intro {waited : Nat} {roster : List Member} {time : Instant} (hwaited : waited ≤ deadline)
    (hroster : ⟨.directory (.roster new.normalized.teamId), ⟨waited, .ok roster⟩⟩ ∈ talk)
    (htime : ⟨.now, time⟩ ∈ talk)
    (hrows : created.attendanceRows =
      (AttendanceRecord.cohort created.event roster time).length)
    (hwritten : talk.Wrote new.normalized created.event
      (AttendanceRecord.cohort created.event roster time))

/-- The event has been found in its team, and has been changed as the patch says.  No more has been
asked of the storage. -/
inductive Changes (talk : Talk) (teamId : TeamId) (id : EventId) (patch : Patch)
    (changed : Event) : Prop where
  | intro {current : Event} (hteam : current.teamId = teamId)
    (hchanged : patch.apply current = .ok changed)
    (hwritten : talk.dealings = [⟨.updateEvent changed, .ok true⟩,
      ⟨.lockEvent id, .ok (some current)⟩, ⟨.begin, .ok ()⟩])

/-- The event has been found, and the status has been set in the record of the user.  No more has
been asked of the storage. -/
inductive Responds (talk : Talk) (userId : UserId) (id : EventId) (status : Status)
    (event : Event) : Prop where
  | intro {time : Instant} (htime : ⟨.now, time⟩ ∈ talk)
    (hwritten : talk.dealings = [⟨.updateStatus id userId status time, .ok true⟩,
      ⟨.begin, .ok ()⟩, ⟨.findEvent id, .ok (some event)⟩])

end Talk

namespace Visit

/-- Everything that a request has to do before it commits has been done.  If the commit succeeds,
the request will get the given reply. -/
inductive Earned (visit : Visit) (talk : Talk) : Reply → Prop where
  | create {new : NewEvent} {created : CreatedEvent} (hoperation : visit.operation = .create new)
    (h : talk.Creates visit.settings.deadline new created) : Earned visit talk (.created created)
  | update {teamId : TeamId} {id : EventId} {patch : Patch} {changed : Event}
    (hoperation : visit.operation = .update teamId id patch)
    (h : talk.Changes teamId id patch changed) : Earned visit talk (.updated changed)
  | respond {id : EventId} {status : Status} {event : Event}
    (hoperation : visit.operation = .respond id status)
    (h : talk.Responds visit.requester id status event) : Earned visit talk (.responded event)

/-- What a request may ask of the storage. -/
def AllowsStorage (visit : Visit) (past : Talk) : Storage.Question → Prop
  | .begin => visit.operation.writes = true ∧ past.phase = .outside
  | .findEvent id =>
    past = [] ∧ (visit.operation = .read id ∨ ∃ status, visit.operation = .respond id status)
  | .listTeamEvents teamId => visit.operation = .list teamId ∧ past.phase = .outside
  | .listAttendance id =>
    visit.operation = .read id ∧ past.phase = .outside ∧
      ∃ event, past.Stored (.findEvent id) (.ok (some event))
  | .ping => False
  | .insertEvent new' =>
    past.phase = .inside ∧ ∃ new, visit.operation = .create new ∧ new' = new.normalized
  | .insertAttendance _ => past.phase = .inside ∧ ∃ new, visit.operation = .create new
  | .lockEvent _ | .updateEvent _ | .updateStatus .. => past.phase = .inside
  | .commit => past.phase = .inside ∧ ∃ reply, visit.Earned past reply
  | .rollback => past.phase = .inside ∨ past.phase = .failing

/-- What a request may ask.  Its own success is counted and made known only after the commit. -/
def Allows (visit : Visit) (past : Talk) : Surroundings.Question → Prop
  | .storage q => visit.AllowsStorage past q
  | .count occurrence => occurrence.isSuccess = true → past.phase = .settled
  | .publish _ => past.phase = .settled
  | .directory _ | .now => True
  | .tally => False

end Visit

/-- What is counted and made known of a success. -/
def Reply.success? : Reply → Option (Occurrence × ChangeKind × Event)
  | .created new => some (.eventCreated new.attendanceRows, .eventCreated, new.event)
  | .updated event => some (.eventUpdated, .eventUpdated, event)
  | .responded event => some (.attendanceResponse, .attendanceUpdated, event)
  | .details _ | .events _ => none

/-- The status that an operation sets. -/
def Operation.status? : Operation → Option Status
  | respond _ status => some status
  | _ => none

namespace Visit

/-- A talk has come to a commit that has been earned. -/
inductive Committed (visit : Visit) (reply : Reply) : Talk → Prop where
  | intro {delay : Nat} {before : Talk} (hinside : before.phase = .inside)
    (hearned : visit.Earned before reply) :
    Committed visit reply (⟨.storage .commit, ⟨delay, .ok ()⟩⟩ :: before)

theorem Committed.phase_eq {visit : Visit} {reply : Reply} {talk : Talk}
    (h : visit.Committed reply talk) : talk.phase = .settled := by
  cases h
  rfl

/-- A talk has ended with the news of a commit that has been earned. -/
inductive Told (visit : Visit) (reply : Reply) : Talk → Prop where
  | intro {occurrence : Occurrence} {kind : ChangeKind} {event : Event} {status : Option Status}
    {time : Instant} {talk : Talk} (hsuccess : reply.success? = some (occurrence, kind, event))
    (hstatus : visit.operation.status? = status) (hcommitted : visit.Committed reply talk) :
    Told visit reply
      (⟨.publish ⟨kind, event, visit.requester, status, time⟩, ()⟩ ::
        ⟨.now, time⟩ :: ⟨.count occurrence, ()⟩ :: talk)

/-- How a talk ends with a reply. -/
inductive Ends (visit : Visit) (talk : Talk) (reply : Reply) : Prop where
  | wrote (hwrites : visit.operation.writes = true) (htold : visit.Told reply talk)
  | read (hreads : visit.operation.writes = false) (hphase : talk.phase = .outside)

/-- How a talk ends with a refusal: no transaction has been begun, or it is over. -/
def Fails (talk : Talk) : Prop :=
  talk.phase = .outside ∨ talk.phase = .over

end Visit

/-! ## Each building block keeps to what is allowed -/

namespace Service

variable {α : Type} {visit : Visit} {ends : Talk → α → Prop} {fails : Talk → Refusal → Prop}
variable {past : Talk}

/-- A failure is counted in every phase. -/
theorem keeps_count {occurrence : Occurrence} {ends : Talk → Unit → Prop}
    (hfailure : occurrence.isSuccess = false)
    (h : ∀ talk, past.Aside talk → ends talk ()) :
    Keeps visit.Allows ends fails (count occurrence) past := by
  refine keeps_ask (fun hsuccess => ?_) fun _ => h _ (.cons .refl rfl)
  rw [hfailure] at hsuccess
  cases hsuccess

theorem keeps_now {ends : Talk → Instant → Prop}
    (h : ∀ time, ends (⟨.now, time⟩ :: past) time) :
    Keeps visit.Allows ends fails now past :=
  keeps_ask (q := .now) trivial h

theorem keeps_settle {deadline : Nat} {name : String} {answer : Timed (Except String α)}
    (hends : ∀ value, answer.delay ≤ deadline → answer.value = .ok value → ends past value)
    (hfails : ∀ talk refusal, past.Aside talk → fails talk refusal) :
    Keeps visit.Allows ends fails (settle deadline name answer) past := by
  rw [settle]
  split
  · exact keeps_bind (keeps_count rfl fun talk htalk => keeps_throw (hfails _ _ htalk))
  · next hintime =>
    split
    · next value hvalue => exact keeps_pure (hends value (Nat.le_of_not_lt hintime) hvalue)
    · exact keeps_bind (keeps_count rfl fun talk htalk => keeps_throw (hfails _ _ htalk))

theorem keeps_stored {answer : Timed (Except String α)}
    (hends : ∀ value, answer.value = .ok value → ends past value)
    (hfails : ∀ cause, answer.value = .error cause →
      ∀ talk refusal, past.Aside talk → fails talk refusal) :
    Keeps visit.Allows ends fails (stored answer) past := by
  rw [stored]
  split
  · next value hvalue => exact keeps_pure (hends value hvalue)
  · next cause hcause =>
    exact keeps_bind (keeps_count rfl fun talk htalk => keeps_throw (hfails cause hcause _ _ htalk))

theorem keeps_authorize {settings : RuntimeSettings} {requester : UserId} {teamId : TeamId}
    {required : List Role} {ends : Talk → Role → Prop}
    (hends : ∀ talk role, past.Aside talk → ends talk role)
    (hfails : ∀ talk refusal, past.Aside talk → fails talk refusal) :
    Keeps visit.Allows ends fails (authorize settings requester teamId required) past := by
  refine keeps_bind (keeps_bind (keeps_ask trivial fun answer => ?_))
  have hasked : past.Aside (⟨.directory (.membership teamId [requester]), answer⟩ :: past) :=
    .cons .refl rfl
  refine keeps_settle (fun membership _ _ => ?_)
    fun talk refusal htalk => hfails talk refusal (hasked.trans htalk)
  cases decide? requester membership required with
  | some role => exact keeps_pure (hends _ role hasked)
  | none => exact keeps_throw (hfails _ _ hasked)

theorem keeps_roster {settings : RuntimeSettings} {teamId : TeamId}
    {ends : Talk → List Member → Prop}
    (hends : ∀ delay members, delay ≤ settings.deadline →
      ends (⟨.directory (.roster teamId), ⟨delay, .ok members⟩⟩ :: past) members)
    (hfails : ∀ talk refusal, past.Aside talk → fails talk refusal) :
    Keeps visit.Allows ends fails (roster settings teamId) past := by
  refine keeps_bind (keeps_ask trivial fun answer => ?_)
  refine keeps_settle (fun members hdelay hvalue => ?_)
    fun talk refusal htalk => hfails talk refusal (Talk.Aside.trans (.cons .refl rfl) htalk)
  obtain ⟨delay, value⟩ := answer
  cases hvalue
  exact hends delay members hdelay

theorem keeps_profiles {settings : RuntimeSettings} {userIds : List UserId}
    {ends : Talk → Profiles → Prop} (hends : ∀ talk profiles, past.Aside talk → ends talk profiles)
    (hfails : ∀ talk refusal, past.Aside talk → fails talk refusal) :
    Keeps visit.Allows ends fails (profiles settings userIds) past := by
  refine keeps_bind (keeps_ask trivial fun answer => ?_)
  have hasked : past.Aside (⟨.directory (.profiles userIds), answer⟩ :: past) := .cons .refl rfl
  exact keeps_settle (fun profiles _ _ => hends _ profiles hasked)
    fun talk refusal htalk => hfails talk refusal (hasked.trans htalk)

/-- A request that gives up its transaction rolls it back. -/
theorem keeps_rollback {refusal : Refusal}
    (hopen : past.phase = .inside ∨ past.phase = .failing) :
    Keeps visit.Allows ends (fun talk _ => Visit.Fails talk)
      (ask (.storage .rollback) >>= fun _ => throw refusal) past :=
  keeps_bind (keeps_ask hopen fun _ => keeps_throw (.inr rfl))

/-- A body that has earned its commit is committed, and one that is refused is rolled back. -/
theorem keeps_inTransaction {body : Service α} (reply : α → Reply)
    (hwrites : visit.operation.writes = true) (hphase : past.phase = .outside)
    (hbody : ∀ delay, Keeps visit.Allows
      (fun talk value => talk.phase = .inside ∧ visit.Earned talk (reply value))
      (fun talk _ => talk.phase = .inside) body (⟨.storage .begin, ⟨delay, .ok ()⟩⟩ :: past)) :
    Keeps visit.Allows (fun talk value => visit.Committed (reply value) talk)
      (fun talk _ => Visit.Fails talk) (inTransaction body) past := by
  refine keeps_bind (keeps_ask ⟨hwrites, hphase⟩ fun begun => keeps_bind ?_)
  obtain ⟨delay, begun⟩ := begun
  refine keeps_stored (fun _ hbegun => ?_) fun cause hcause talk refusal htalk => ?_
  · cases hbegun
    refine keeps_tryCatch (keeps_bind ((hbody delay).mono ?_ fun talk refusal hinside => ?_))
    · rintro talk value ⟨hinside, hvalue⟩
      refine keeps_bind (keeps_ask ⟨hinside, reply value, hvalue⟩ fun committed => ?_)
      obtain ⟨delay, committed⟩ := committed
      refine keeps_bind (keeps_stored (fun _ hcommitted => ?_)
        fun cause hcause talk' refusal htalk => ?_)
      · cases hcommitted
        exact keeps_pure (.intro hinside hvalue)
      · cases hcause
        exact keeps_rollback (.inr htalk.phase_eq)
    · exact keeps_rollback (.inl hinside)
  · cases hcause
    exact .inr htalk.phase_eq

/-- A success is counted and made known after the commit. -/
theorem keeps_announce {occurrence : Occurrence} {kind : ChangeKind} {event : Event}
    {actorId : UserId} {attendanceStatus : Option Status} {value : α}
    (hphase : past.phase = .settled)
    (h : ∀ time, ends (⟨.publish ⟨kind, event, actorId, attendanceStatus, time⟩, ()⟩ ::
      ⟨.now, time⟩ :: ⟨.count occurrence, ()⟩ :: past) value) :
    Keeps visit.Allows ends fails
      (do
        count occurrence
        publish kind event actorId attendanceStatus
        pure value) past := by
  refine keeps_bind (keeps_ask (fun _ => hphase) fun _ => keeps_bind (keeps_bind (keeps_now
    fun time => keeps_ask ?_ fun _ => keeps_pure (h time))))
  exact hphase

/-! ## Each request keeps to what is allowed -/

theorem keeps_insertAttendance {records : List AttendanceRecord} {new : NewEvent}
    {ends : Talk → Nat → Prop} (hoperation : visit.operation = .create new)
    (hphase : past.phase = .inside)
    (hends : ∀ delay, ends
      (⟨.storage (.insertAttendance records), ⟨delay, .ok records.length⟩⟩ :: past) records.length) :
    Keeps visit.Allows ends (fun talk _ => talk.phase = .inside) (insertAttendance records) past := by
  refine keeps_bind (keeps_ask ⟨hphase, new, hoperation⟩ fun answer => keeps_bind ?_)
  have hasked : Talk.phase (⟨.storage (.insertAttendance records), answer⟩ :: past) = .inside :=
    hphase
  obtain ⟨delay, answer⟩ := answer
  refine keeps_stored (fun written hwritten => ?_) fun _ _ talk _ htalk => htalk.phase_eq.trans hasked
  cases hwritten
  split
  · next hall =>
    subst hall
    exact keeps_pure (hends delay)
  · exact keeps_bind (keeps_count rfl fun talk htalk => keeps_throw (htalk.phase_eq.trans hasked))

/-- The records of a new event are written at most once, and all of them. -/
theorem keeps_writeRecords {new : NewEvent} {event : Event} {roster : List Member}
    {waited : Nat} {time : Instant} (hoperation : visit.operation = .create new)
    (hwaited : waited ≤ visit.settings.deadline) (hphase : past.phase = .inside)
    (hroster : Exchange.mk (.directory (.roster new.normalized.teamId)) ⟨waited, .ok roster⟩ ∈ past)
    (htime : Exchange.mk .now time ∈ past)
    (hwritten : past.dealings = [⟨.insertEvent new.normalized, .ok event⟩, ⟨.begin, .ok ()⟩]) :
    Keeps visit.Allows
      (fun talk created => talk.phase = .inside ∧ visit.Earned talk (.created created))
      (fun talk _ => talk.phase = .inside)
      (writeRecords event (AttendanceRecord.cohort event roster time)) past := by
  rw [writeRecords]
  by_cases hcohort : AttendanceRecord.cohort event roster time = []
  · rw [hcohort]
    refine keeps_pure ⟨hphase, Visit.Earned.create hoperation ?_⟩
    refine .intro hwaited hroster htime (congrArg List.length hcohort).symm ?_
    rwa [Talk.Wrote, if_pos hcohort]
  · rw [if_neg (by simpa using hcohort)]
    refine keeps_bind (keeps_insertAttendance hoperation hphase fun delay => ?_)
    refine keeps_pure ⟨hphase, Visit.Earned.create hoperation ?_⟩
    refine .intro hwaited (List.mem_cons_of_mem _ hroster) (List.mem_cons_of_mem _ htime) rfl ?_
    rw [Talk.Wrote, if_neg hcohort]
    exact congrArg (List.cons _) hwritten

theorem keeps_storeEvent {new : NewEvent} (hoperation : visit.operation = .create new)
    (hphase : past.phase = .outside) (hunasked : past.dealings = []) :
    Keeps visit.Allows (fun talk created => visit.Committed (.created created) talk)
      (fun talk _ => Visit.Fails talk) (storeEvent visit.settings new) past := by
  rw [storeEvent_eq]
  refine keeps_bind (keeps_ofFlaw (fun _ _ => ?_) fun _ _ => .inl hphase)
  refine keeps_bind (keeps_roster (fun waited roster hwaited => ?_)
    fun talk _ htalk => .inl (htalk.phase_eq.trans hphase))
  refine keeps_inTransaction _ (by rw [hoperation]; rfl) hphase fun delay => ?_
  refine keeps_bind (keeps_ask ⟨rfl, new, hoperation, rfl⟩ fun answer => ?_)
  obtain ⟨delay', answer⟩ := answer
  refine keeps_bind (keeps_stored (fun event hevent => ?_) fun _ _ talk _ htalk => htalk.phase_eq)
  cases hevent
  refine keeps_bind (keeps_now fun time => ?_)
  refine keeps_writeRecords hoperation hwaited rfl ?_ List.mem_cons_self ?_
  · simp
  · exact congrArg (List.cons _) (congrArg (List.cons _) hunasked)

theorem keeps_createEvent {new : NewEvent} (hoperation : visit.operation = .create new) :
    Keeps visit.Allows (fun talk created => visit.Told (.created created) talk)
      (fun talk _ => Visit.Fails talk) (createEvent visit.settings visit.requester new) [] := by
  refine keeps_bind (keeps_ofFlaw (fun _ _ => ?_) fun _ _ => .inl rfl)
  refine keeps_bind (keeps_authorize (fun talk _ htalk => ?_) fun talk _ htalk => .inl htalk.phase_eq)
  refine keeps_bind ((keeps_storeEvent hoperation htalk.phase_eq htalk.dealings_eq).mono
    (fun talk' created hcommitted => ?_) fun _ _ hfails => hfails)
  refine keeps_announce hcommitted.phase_eq fun time => .intro rfl ?_ hcommitted
  rw [hoperation]
  rfl

theorem keeps_writePatch {teamId : TeamId} {id : EventId} {patch : Patch}
    (hoperation : visit.operation = .update teamId id patch) (hphase : past.phase = .inside)
    (hbegun : past.dealings = [⟨.begin, .ok ()⟩]) :
    Keeps visit.Allows
      (fun talk changed => talk.phase = .inside ∧ visit.Earned talk (.updated changed))
      (fun talk _ => talk.phase = .inside) (writePatch teamId id patch) past := by
  refine keeps_bind (keeps_ask hphase fun answer => ?_)
  obtain ⟨delay, answer⟩ := answer
  refine keeps_bind (keeps_stored (fun current? hlocked => ?_)
    fun _ _ talk _ htalk => htalk.phase_eq.trans hphase)
  cases hlocked
  cases current? with
  | none => exact keeps_throw hphase
  | some current =>
    change Keeps _ _ _ (writeChange teamId id patch current) _
    rw [writeChange]
    split
    · next hteam =>
      refine keeps_bind (keeps_ofFlaw (fun changed hchanged => ?_) fun _ _ => hphase)
      refine keeps_bind (keeps_ask hphase fun answer => ?_)
      obtain ⟨delay', answer⟩ := answer
      refine keeps_bind (keeps_stored (fun written hwritten => ?_)
        fun _ _ talk _ htalk => htalk.phase_eq.trans hphase)
      cases hwritten
      cases written with
      | false => exact keeps_throw hphase
      | true =>
        refine keeps_pure ⟨hphase, Visit.Earned.update hoperation ?_⟩
        exact .intro hteam hchanged (congrArg (List.cons _) (congrArg (List.cons _) hbegun))
    · exact keeps_throw hphase

theorem keeps_storePatch {teamId : TeamId} {id : EventId} {patch : Patch}
    (hoperation : visit.operation = .update teamId id patch) (hphase : past.phase = .outside)
    (hunasked : past.dealings = []) :
    Keeps visit.Allows (fun talk changed => visit.Committed (.updated changed) talk)
      (fun talk _ => Visit.Fails talk) (storePatch teamId id patch) past := by
  by_cases hempty : patch.isEmpty = true
  · rw [storePatch_of_isEmpty hempty]
    exact keeps_throw (.inl hphase)
  · rw [storePatch_of_not_isEmpty hempty]
    refine keeps_inTransaction _ (by rw [hoperation]; rfl) hphase fun delay => ?_
    exact keeps_writePatch hoperation rfl (congrArg (List.cons _) hunasked)

theorem keeps_updateEvent {teamId : TeamId} {id : EventId} {patch : Patch}
    (hoperation : visit.operation = .update teamId id patch) :
    Keeps visit.Allows (fun talk changed => visit.Told (.updated changed) talk)
      (fun talk _ => Visit.Fails talk)
      (updateEvent visit.settings visit.requester teamId id patch) [] := by
  refine keeps_bind (keeps_authorize (fun talk _ htalk => ?_) fun talk _ htalk => .inl htalk.phase_eq)
  refine keeps_bind ((keeps_storePatch hoperation htalk.phase_eq htalk.dealings_eq).mono
    (fun talk' changed hcommitted => ?_) fun _ _ hfails => hfails)
  refine keeps_announce hcommitted.phase_eq fun time => .intro rfl ?_ hcommitted
  rw [hoperation]
  rfl

/-- An event is looked for before anything else is asked. -/
theorem keeps_findEvent {id : EventId} {ends : Talk → Event → Prop}
    (hoperation : visit.operation = .read id ∨ ∃ status, visit.operation = .respond id status)
    (hends : ∀ delay event, ends [⟨.storage (.findEvent id), ⟨delay, .ok (some event)⟩⟩] event) :
    Keeps visit.Allows ends (fun talk _ => Visit.Fails talk) (findEvent id) [] := by
  refine keeps_bind (keeps_ask ⟨rfl, hoperation⟩ fun answer => ?_)
  obtain ⟨delay, answer⟩ := answer
  refine keeps_bind (keeps_stored (fun event? hfound => ?_)
    fun _ _ talk _ htalk => .inl htalk.phase_eq)
  cases hfound
  cases event? with
  | none => exact keeps_throw (.inl rfl)
  | some event => exact keeps_pure (hends delay event)

theorem keeps_storeStatus {id : EventId} {status : Status} {event : Event}
    (hoperation : visit.operation = .respond id status) (hphase : past.phase = .outside)
    (hfound : past.dealings = [⟨.findEvent id, .ok (some event)⟩]) :
    Keeps visit.Allows (fun talk _ => visit.Committed (.responded event) talk)
      (fun talk _ => Visit.Fails talk) (storeStatus id visit.requester status) past := by
  rw [storeStatus_eq]
  refine keeps_inTransaction (fun _ => .responded event) (by rw [hoperation]; rfl) hphase
    fun delay => ?_
  refine keeps_bind (keeps_now fun time => keeps_bind (keeps_ask rfl fun answer => ?_))
  obtain ⟨delay', answer⟩ := answer
  refine keeps_bind (keeps_stored (fun written hwritten => ?_)
    fun _ _ talk _ htalk => htalk.phase_eq)
  cases hwritten
  cases written with
  | false => exact keeps_throw rfl
  | true =>
    refine keeps_pure ⟨rfl, Visit.Earned.respond hoperation ?_⟩
    exact .intro (List.mem_cons_of_mem _ List.mem_cons_self)
      (congrArg (List.cons _) (congrArg (List.cons _) hfound))

theorem keeps_respond {id : EventId} {status : Status}
    (hoperation : visit.operation = .respond id status) :
    Keeps visit.Allows (fun talk event => visit.Told (.responded event) talk)
      (fun talk _ => Visit.Fails talk) (respond visit.settings visit.requester id status) [] := by
  refine keeps_bind (keeps_findEvent (.inr ⟨status, hoperation⟩) fun delay event => ?_)
  refine keeps_bind (keeps_authorize (fun talk _ htalk => ?_) fun talk _ htalk => .inl htalk.phase_eq)
  refine keeps_bind ((keeps_storeStatus hoperation htalk.phase_eq htalk.dealings_eq).mono
    (fun talk' _ hcommitted => ?_) fun _ _ hfails => hfails)
  refine keeps_announce hcommitted.phase_eq fun time => .intro rfl ?_ hcommitted
  rw [hoperation]
  rfl

theorem keeps_join {records : List AttendanceRecord} {profiles : Profiles}
    {ends : Talk → List Attendee → Prop}
    (hends : ∀ talk attendance, past.Aside talk → ends talk attendance) :
    Keeps visit.Allows ends fails (join records profiles) past := by
  rw [join]
  split
  · exact keeps_bind (keeps_count rfl fun talk htalk => keeps_pure (hends _ _ htalk))
  · exact keeps_pure (hends _ _ .refl)

theorem keeps_details {event : Event} {records : List AttendanceRecord}
    (hphase : past.phase = .outside) :
    Keeps visit.Allows (fun talk _ => talk.phase = .outside) (fun talk _ => Visit.Fails talk)
      (details visit.settings event records) past := by
  have hjoin (talk : Talk) (profiles : Profiles) (htalk : past.Aside talk) :
      Keeps visit.Allows (fun talk _ => talk.phase = .outside) (fun talk _ => Visit.Fails talk)
        (do let attendance ← join records profiles; pure (EventDetails.mk event attendance)) talk :=
    keeps_bind (keeps_join fun talk' _ htalk' =>
      keeps_pure ((htalk.trans htalk').phase_eq.trans hphase))
  rw [details]
  split
  · exact hjoin past _ .refl
  · exact keeps_bind (keeps_profiles hjoin
      fun talk _ htalk => .inl (htalk.phase_eq.trans hphase))

theorem keeps_eventDetails {id : EventId} (hoperation : visit.operation = .read id) :
    Keeps visit.Allows (fun talk _ => talk.phase = .outside) (fun talk _ => Visit.Fails talk)
      (eventDetails visit.settings visit.requester id) [] := by
  rw [eventDetails_eq]
  refine keeps_bind (keeps_findEvent (.inl hoperation) fun delay event => ?_)
  refine keeps_bind (keeps_authorize (fun talk _ htalk => ?_) fun talk _ htalk => .inl htalk.phase_eq)
  refine keeps_bind (keeps_ask ⟨hoperation, htalk.phase_eq, event, delay,
    htalk.mem List.mem_cons_self⟩ fun answer => ?_)
  refine keeps_bind (keeps_stored (fun records _ => keeps_details htalk.phase_eq)
    fun _ _ talk' _ htalk' => .inl (htalk'.phase_eq.trans htalk.phase_eq))

theorem keeps_teamEvents {teamId : TeamId} (hoperation : visit.operation = .list teamId) :
    Keeps visit.Allows (fun talk _ => talk.phase = .outside) (fun talk _ => Visit.Fails talk)
      (teamEvents visit.settings visit.requester teamId) [] := by
  refine keeps_bind (keeps_authorize (fun talk _ htalk => ?_) fun talk _ htalk => .inl htalk.phase_eq)
  refine keeps_map (keeps_bind (keeps_ask ⟨hoperation, htalk.phase_eq⟩ fun answer => ?_))
  exact keeps_stored (fun _ _ => htalk.phase_eq)
    fun _ _ talk' _ htalk' => .inl (htalk'.phase_eq.trans htalk.phase_eq)

end Service

/-- Every request keeps to what is allowed, whatever it is answered. -/
theorem Visit.keeps_service (visit : Visit) :
    Service.Keeps visit.Allows (fun talk reply => visit.Ends talk reply)
      (fun talk _ => Visit.Fails talk) visit.service [] := by
  rw [Visit.service]
  cases hoperation : visit.operation with
  | create new =>
    refine Service.keeps_map ((Service.keeps_createEvent hoperation).mono (fun talk _ htold => ?_)
      fun _ _ hfails => hfails)
    exact .wrote (by rw [hoperation]; rfl) htold
  | update teamId id patch =>
    refine Service.keeps_map ((Service.keeps_updateEvent hoperation).mono (fun talk _ htold => ?_)
      fun _ _ hfails => hfails)
    exact .wrote (by rw [hoperation]; rfl) htold
  | respond id status =>
    refine Service.keeps_map ((Service.keeps_respond hoperation).mono (fun talk _ htold => ?_)
      fun _ _ hfails => hfails)
    exact .wrote (by rw [hoperation]; rfl) htold
  | read id =>
    refine Service.keeps_map ((Service.keeps_eventDetails hoperation).mono (fun talk _ hphase => ?_)
      fun _ _ hfails => hfails)
    exact .read (by rw [hoperation]; rfl) hphase
  | list teamId =>
    refine Service.keeps_map ((Service.keeps_teamEvents hoperation).mono (fun talk _ hphase => ?_)
      fun _ _ hfails => hfails)
    exact .read (by rw [hoperation]; rfl) hphase

end TeamCalendar
