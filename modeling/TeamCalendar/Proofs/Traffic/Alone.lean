import TeamCalendar.Proofs.Scene.Closing
import TeamCalendar.Proofs.Traffic

/-!
# A request that is alone

What a request does amid traffic is compared with what it would do alone.  Alone it is followed step
by step as well, and it is enough that it asks the same questions up to its commit.

* `Proceeds` follows a request that is alone.
* `Dialogue.Alike` says of two dialogues that they ask the same questions until nothing is asked of
  the storage any more.
* `Scene.answer_alike` says that stores that are alike give the same answers and stay alike.
* `Proceeds.carryOut` says that a request that has committed its transaction comes to a good end.
-/

namespace TeamCalendar

namespace Dialogue

variable {α β : Type}

/-- Two dialogues ask the same questions until nothing is asked of the storage any more. -/
inductive Alike : Dialogue Surroundings α → Dialogue Surroundings α → Prop where
  | closing {first second : Dialogue Surroundings α} (h : first.Closing) (h' : second.Closing) :
    Alike first second
  | ask {q : Surroundings.Question} {next next' : Surroundings.Answer q → Dialogue Surroundings α}
    (h : ∀ answer, Alike (next answer) (next' answer)) : Alike (.ask q next) (.ask q next')

theorem Alike.refl (dialogue : Dialogue Surroundings α) : dialogue.Alike dialogue := by
  induction dialogue with
  | done value => exact .closing trivial trivial
  | ask q next ih => exact .ask ih

theorem Alike.bind {first : Dialogue Surroundings β} {next next' : β → Dialogue Surroundings α}
    (h : ∀ value, (next value).Alike (next' value)) :
    (first.bind next).Alike (first.bind next') := by
  induction first with
  | done value => exact h value
  | ask q rest ih => exact .ask ih

theorem Alike.bind_closing {first second : Dialogue Surroundings β}
    {next : β → Dialogue Surroundings α} (h : first.Alike second)
    (hnext : ∀ value, (next value).Closing) : (first.bind next).Alike (second.bind next) := by
  induction h with
  | closing h h' => exact .closing (h.bind hnext) (h'.bind hnext)
  | ask h ih => exact .ask ih

/-- A dialogue that is like one with a question to the storage asks it too. -/
theorem Alike.of_stored {q : Surroundings.Question}
    {next : Surroundings.Answer q → Dialogue Surroundings α} {second : Dialogue Surroundings α}
    (h : Alike (.ask q next) second) (hq : q.isStored = true) :
    ∃ next', second = .ask q next' ∧ ∀ answer, (next answer).Alike (next' answer) := by
  cases h with
  | closing h h' => exact Bool.noConfusion (hq.symm.trans h.1)
  | ask h => exact ⟨_, rfl, h⟩

/-- A dialogue that is like one with a question asks it too, or neither asks the storage any more.
-/
theorem Alike.of_ask {q : Surroundings.Question}
    {next : Surroundings.Answer q → Dialogue Surroundings α} {second : Dialogue Surroundings α}
    (h : Alike (.ask q next) second) :
    (∀ answer, (next answer).Closing) ∨
      ∃ next', second = .ask q next' ∧ ∀ answer, (next answer).Alike (next' answer) := by
  cases h with
  | closing h h' => exact .inl h.2
  | ask h => exact .inr ⟨_, rfl, h⟩

end Dialogue

namespace Service

variable {α β : Type}

/-- Two services ask the same questions until nothing is asked of the storage any more. -/
def Alike (first second : Service α) : Prop :=
  Dialogue.Alike (ExceptT.run first) (ExceptT.run second)

theorem Alike.bind {first : Service β} {next next' : β → Service α}
    (h : ∀ value, Alike (next value) (next' value)) : Alike (first >>= next) (first >>= next') := by
  refine Dialogue.Alike.bind fun result => ?_
  cases result with
  | ok value => exact h value
  | error refusal => exact .refl _

theorem Alike.map {f : β → α} {first second : Service β} (h : Alike first second) :
    Alike (f <$> first) (f <$> second) := by
  refine Dialogue.Alike.bind_closing h fun result => ?_
  cases result with
  | ok value => trivial
  | error refusal => trivial

/-- What is left of a response when the event has been found. -/
def respondTo (settings : RuntimeSettings) (requester : UserId) (id : EventId) (status : Status)
    (event : Event) : Service Event := do
  let _ ← authorizeRead settings requester event.teamId
  storeStatus id requester status
  count .attendanceResponse
  publish .attendanceUpdated event requester (some status)
  pure event

/-- Of the event that has been found, a response depends on the team only. -/
theorem alike_respondTo (settings : RuntimeSettings) (requester : UserId) (id : EventId)
    (status : Status) {event event' : Event} (hteam : event'.teamId = event.teamId) :
    Alike (respondTo settings requester id status event)
      (respondTo settings requester id status event') := by
  rw [respondTo, respondTo, hteam]
  refine Alike.bind fun _ => Alike.bind fun _ => .closing ?_ ?_
  · exact closing_announce _ _ _ _ _ _
  · exact closing_announce _ _ _ _ _ _

/-- A response starts with looking for its event, and ends there if there is none. -/
theorem exists_run_respond (settings : RuntimeSettings) (requester : UserId) (id : EventId)
    (status : Status) :
    ∃ next, ExceptT.run (Reply.responded <$> respond settings requester id status) =
        .ask (.storage (.findEvent id)) next ∧
      Dialogue.Closing (next ⟨0, .ok none⟩) ∧
      ∀ event event' : Event, event'.teamId = event.teamId →
        Dialogue.Alike (next ⟨0, .ok (some event)⟩) (next ⟨0, .ok (some event')⟩) :=
  ⟨_, rfl, trivial, fun _ _ hteam =>
    (alike_respondTo settings requester id status hteam).map⟩

end Service

/-- Two stores have the same tables, the same transaction and the same new identifiers. -/
structure Store.Alike (first second : Store) : Prop where
  committed : second.committed = first.committed
  staged : second.staged = first.staged
  ids : second.ids = first.ids

/-- Whether attendance is to be written. -/
def Storage.Question.isAttendance : Storage.Question → Bool
  | insertAttendance _ => true
  | _ => false

namespace Store

variable {first second after : Store} {α : Type}

/-- The second store answers like the first one. -/
structure AnswersAlike (second : Store) (outcome outcome' : α × Store) : Prop where
  value : outcome'.1 = outcome.1
  store : outcome.2.Alike outcome'.2
  failing : outcome'.2.failing = second.failing

theorem Alike.answers (h : first.Alike second) (value : α) :
    second.AnswersAlike (value, first) (value, second) :=
  ⟨rfl, h, rfl⟩

theorem Alike.within (h : first.Alike second) {act act' : Transaction → Except String α × Store}
    (hact : ∀ tx, second.AnswersAlike (act tx) (act' tx)) :
    second.AnswersAlike (first.within act) (second.within act') := by
  rw [Store.within, Store.within, transaction?, transaction?, h.staged, h.committed]
  cases first.staged with
  | none => exact h.answers _
  | some staged => exact hact _

theorem Alike.stage (h : first.Alike second) (tx : Transaction) :
    (first.stage tx).Alike (second.stage tx) :=
  ⟨h.committed, rfl, h.ids⟩

theorem Alike.insertAttendance (h : first.Alike second) (hworking : second.failing = first.failing)
    (tx : Transaction) (records : List AttendanceRecord) :
    second.AnswersAlike (first.insertAttendance tx records) (second.insertAttendance tx records) := by
  rw [Store.insertAttendance, Store.insertAttendance]
  cases hfailing : first.failing with
  | true =>
    rw [hfailing] at hworking
    simp only [hworking, if_true]
    exact ⟨rfl, ⟨h.committed, h.staged, h.ids⟩, hworking.symm⟩
  | false =>
    rw [hfailing] at hworking
    simp only [hworking]
    cases tx.batch records with
    | error fault => exact ⟨rfl, ⟨h.committed, h.staged, h.ids⟩, hworking.symm⟩
    | ok batch => exact ⟨rfl, ⟨h.committed, rfl, h.ids⟩, hworking.symm⟩

/-- Stores that are alike give the same answers and stay alike, except where the writing of
attendance is made to fail. -/
theorem Alike.answer? (h : first.Alike second) {q : Storage.Question} {answer : Storage.Answer q}
    (hworking : q.isAttendance = true → second.failing = first.failing)
    (hanswer : Store.answer? q first = some (answer, after)) :
    ∃ after', Store.answer? q second = some (answer, after') ∧ after.Alike after' ∧
      after'.failing = second.failing := by
  suffices hsuffices : ∀ outcome, Store.answer? q first = some outcome →
      ∃ outcome', Store.answer? q second = some outcome' ∧ second.AnswersAlike outcome outcome' by
    obtain ⟨⟨answer', after'⟩, hanswer', hvalue, hstore, hfailing⟩ := hsuffices _ hanswer
    cases hvalue
    exact ⟨after', hanswer', hstore, hfailing⟩
  intro outcome houtcome
  cases q with
  | begin =>
    cases hstaged : first.staged with
    | none =>
      rw [answer?_begin hstaged, Option.some.injEq] at houtcome
      subst houtcome
      exact ⟨_, answer?_begin (h.staged.trans hstaged), rfl, ⟨h.committed, rfl, h.ids⟩, rfl⟩
    | some staged =>
      rw [answer?_begin_busy (by rw [hstaged]; nofun)] at houtcome
      cases houtcome
  | findEvent id =>
    cases houtcome
    exact ⟨_, rfl, by rw [h.committed], h, rfl⟩
  | listTeamEvents teamId =>
    cases houtcome
    exact ⟨_, rfl, by rw [h.committed], h, rfl⟩
  | listAttendance id =>
    cases houtcome
    exact ⟨_, rfl, by rw [h.committed], h, rfl⟩
  | ping =>
    cases houtcome
    exact ⟨_, rfl, h.answers _⟩
  | insertEvent new =>
    cases houtcome
    refine ⟨_, rfl, h.within fun tx => ?_⟩
    simp only [insertEvent, h.ids]
    exact ⟨rfl, ⟨h.committed, rfl, rfl⟩, rfl⟩
  | insertAttendance records =>
    cases houtcome
    refine ⟨_, rfl, h.within fun tx => ?_⟩
    obtain ⟨hvalue, hstore, hfailing⟩ := h.insertAttendance (hworking rfl) tx records
    exact ⟨congrArg (Except.mapError AttendanceFault.message) hvalue, hstore, hfailing⟩
  | lockEvent id =>
    cases houtcome
    exact ⟨_, rfl, h.within fun tx => h.answers _⟩
  | updateEvent event =>
    cases houtcome
    refine ⟨_, rfl, h.within fun tx => ?_⟩
    cases tx.updateEvent? event with
    | none => exact h.answers _
    | some tx' => exact ⟨rfl, h.stage tx', rfl⟩
  | updateStatus eventId userId status now =>
    cases houtcome
    refine ⟨_, rfl, h.within fun tx => ?_⟩
    cases tx.updateStatus? ⟨eventId, userId⟩ status now with
    | none => exact h.answers _
    | some tx' => exact ⟨rfl, h.stage tx', rfl⟩
  | commit =>
    cases houtcome
    refine ⟨_, rfl, h.within fun tx => ⟨rfl, ⟨?_, rfl, h.ids⟩, rfl⟩⟩
    rw [commit, commit, h.committed, h.staged]
  | rollback =>
    cases houtcome
    exact ⟨_, rfl, rfl, ⟨h.committed, rfl, h.ids⟩, rfl⟩

end Store

theorem Exchange.toStorage?_eq_none {q : Surroundings.Question} (hq : q.isStored = false)
    {answer : Surroundings.Answer q} : Exchange.toStorage? ⟨q, answer⟩ = none := by
  cases q with
  | storage q => cases hq
  | _ => rfl

namespace Scene

variable {c : Collaborators} {q : Surroundings.Question} {answer : Surroundings.Answer q}
  {s s' after : Scene}

theorem asked_answer (h : Scene.answer c q s = some (answer, after)) :
    after.asked = q :: s.asked := by
  cases q with
  | storage q =>
    obtain ⟨outcome, -, houtcome⟩ := Option.map_eq_some_iff.1 h
    cases houtcome
    rfl
  | directory q => cases h; rfl
  | now => cases h; rfl
  | count occurrence => cases h; rfl
  | tally => cases h; rfl
  | publish change => cases h; rfl

/-- A question to the storage is answered by the store. -/
theorem answer_storage {q : Storage.Question} {answer : Timed (Storage.Answer q)}
    (h : Scene.answer c (.storage q) s = some (answer, after)) :
    answer.delay = 0 ∧ Store.answer? q s.store = some (answer.value, after.store) := by
  obtain ⟨⟨value, store⟩, hstore, houtcome⟩ := Option.map_eq_some_iff.1 h
  cases houtcome
  exact ⟨rfl, hstore⟩

theorem exists_answer_aside (hq : q.isStored = false) (c : Collaborators) (s : Scene) :
    ∃ answer after, Scene.answer c q s = some (answer, after) ∧ after.store = s.store := by
  cases q with
  | storage q => cases hq
  | directory q => exact ⟨_, _, rfl, rfl⟩
  | now => exact ⟨_, _, rfl, rfl⟩
  | count occurrence => exact ⟨_, _, rfl, rfl⟩
  | tally => exact ⟨_, _, rfl, rfl⟩
  | publish change => exact ⟨_, _, rfl, rfl⟩

/-- What is not asked of the storage does not depend on it and does not change it. -/
theorem answer_aside (hq : q.isStored = false) (htally : q ≠ .tally) (hasked : s'.asked = s.asked)
    (h : Scene.answer c q s = some (answer, after)) :
    after.store = s.store ∧
      ∃ after', Scene.answer c q s' = some (answer, after') ∧ after'.store = s'.store := by
  cases q with
  | storage q => cases hq
  | directory q =>
    cases h
    exact ⟨rfl, _, rfl, rfl⟩
  | now =>
    cases h
    refine ⟨rfl, s'.note .now, ?_, rfl⟩
    rw [Scene.answer, hasked]
  | count occurrence =>
    cases h
    exact ⟨rfl, _, rfl, rfl⟩
  | tally => exact absurd rfl htally
  | publish change =>
    cases h
    exact ⟨rfl, _, rfl, rfl⟩

/-- With stores that are alike, questions are answered alike. -/
theorem answer_alike (htally : q ≠ .tally) (hasked : s'.asked = s.asked)
    (hstore : s.store.Alike s'.store)
    (hworking : (∃ records, q = .storage (.insertAttendance records)) →
      s'.store.failing = s.store.failing)
    (h : Scene.answer c q s = some (answer, after)) :
    ∃ after', Scene.answer c q s' = some (answer, after') ∧ after.store.Alike after'.store ∧
      after'.store.failing = s'.store.failing := by
  cases hq : q.isStored with
  | false =>
    obtain ⟨hafter, after', hanswer, hafter'⟩ := answer_aside hq htally hasked h
    refine ⟨after', hanswer, ?_, congrArg Store.failing hafter'⟩
    rw [hafter, hafter']
    exact hstore
  | true =>
    cases q with
    | storage q =>
      obtain ⟨delay, value⟩ := answer
      obtain ⟨hdelay, hanswer⟩ := answer_storage h
      cases hdelay
      have hfailing : q.isAttendance = true → s'.store.failing = s.store.failing := by
        intro hattendance
        cases q with
        | insertAttendance records => exact hworking ⟨records, rfl⟩
        | _ => cases hattendance
      obtain ⟨store', hanswer', halike, hkept⟩ := hstore.answer? hfailing hanswer
      refine ⟨s'.keep q store', ?_, halike, hkept⟩
      change (Store.answer? q s'.store).map _ = _
      rw [hanswer']
      rfl
    | _ => cases hq

end Scene

/-- What a request that is alone has asked and been answered, what is still to be done, and the
scene by then. -/
inductive Proceeds (visit : Visit) (s : Scene) :
    Talk → Dialogue Surroundings (Except Refusal Reply) → Scene → Prop where
  | start : Proceeds visit s [] (ExceptT.run visit.service) s
  | ask {talk : Talk} {q : Surroundings.Question}
    {next : Surroundings.Answer q → Dialogue Surroundings (Except Refusal Reply)}
    {answer : Surroundings.Answer q} {s' after : Scene} (h : Proceeds visit s talk (.ask q next) s')
    (hanswer : Scene.answer visit.collaborators q s' = some (answer, after)) :
    Proceeds visit s (⟨q, answer⟩ :: talk) (next answer) after

namespace Proceeds

variable {visit : Visit} {s s' : Scene} {talk : Talk}
  {rest : Dialogue Surroundings (Except Refusal Reply)}

theorem carryOut_eq (h : Proceeds visit s talk rest s') :
    s.carryOut visit = (rest.interpret (Scene.answer visit.collaborators)).run s' := by
  induction h with
  | start => rfl
  | ask h hanswer ih =>
    rw [ih]
    change Option.bind _ _ = _
    rw [hanswer]
    rfl

theorem keeps (h : Proceeds visit s talk rest s') :
    rest.Keeps visit.Allows
      (Service.outcome (fun talk reply => visit.Ends talk reply) fun talk _ => Visit.Fails talk)
      talk := by
  induction h with
  | start => exact visit.keeps_service
  | ask h hanswer ih => exact ih.2 _

theorem asked (h : Proceeds visit s talk rest s') (hs : s.asked = []) :
    s'.asked = talk.questions := by
  induction h with
  | start => exact hs
  | ask h hanswer ih =>
    rw [Scene.asked_answer hanswer, ih, Talk.questions, Talk.questions, List.map_cons]

end Proceeds

namespace Visit

variable {visit : Visit} {past : Talk}

/-- Nothing is asked of the storage when the transaction has been committed. -/
theorem not_allowsStorage_of_settled (hphase : past.phase = .settled) (q : Storage.Question) :
    ¬ visit.AllowsStorage past q := by
  intro hallowed
  cases q with
  | begin => exact Phase.noConfusion (hphase.symm.trans hallowed.2)
  | findEvent id =>
    rw [hallowed.1] at hphase
    cases hphase
  | listTeamEvents teamId => exact Phase.noConfusion (hphase.symm.trans hallowed.2)
  | listAttendance id => exact Phase.noConfusion (hphase.symm.trans hallowed.2.1)
  | ping => exact hallowed
  | insertEvent new => exact Phase.noConfusion (hphase.symm.trans hallowed.1)
  | insertAttendance records => exact Phase.noConfusion (hphase.symm.trans hallowed.1)
  | lockEvent id => exact Phase.noConfusion (hphase.symm.trans hallowed)
  | updateEvent event => exact Phase.noConfusion (hphase.symm.trans hallowed)
  | updateStatus eventId userId status now => exact Phase.noConfusion (hphase.symm.trans hallowed)
  | commit => exact Phase.noConfusion (hphase.symm.trans hallowed.1)
  | rollback =>
    rcases hallowed with hallowed | hallowed
    · exact Phase.noConfusion (hphase.symm.trans hallowed)
    · exact Phase.noConfusion (hphase.symm.trans hallowed)

/-- A request that has committed its transaction comes to a good end, and leaves the store as it is.
-/
theorem exists_reply_of_settled {rest : Dialogue Surroundings (Except Refusal Reply)}
    (h : rest.Keeps visit.Allows
      (Service.outcome (fun talk reply => visit.Ends talk reply) fun talk _ => Visit.Fails talk) past)
    (hphase : past.phase = .settled) (s : Scene) :
    ∃ reply s', (rest.interpret (Scene.answer visit.collaborators)).run s = some (.ok reply, s') ∧
      s'.store = s.store := by
  induction rest generalizing past s with
  | done result =>
    cases result with
    | ok reply => exact ⟨reply, s, rfl, rfl⟩
    | error refusal =>
      rcases h with h | h
      · exact Phase.noConfusion (hphase.symm.trans h)
      · exact Phase.noConfusion (hphase.symm.trans h)
  | ask q next ih =>
    obtain ⟨hallowed, hnext⟩ := h
    have hq : q.isStored = false := by
      cases q with
      | storage q => exact absurd hallowed (not_allowsStorage_of_settled hphase q)
      | _ => rfl
    obtain ⟨answer, after, hanswer, hafter⟩ := Scene.exists_answer_aside hq visit.collaborators s
    have hphase' : Talk.phase (⟨q, answer⟩ :: past) = .settled :=
      (Talk.phase_cons fun _ hmem => by rw [Exchange.toStorage?_eq_none hq] at hmem; cases hmem).trans
        hphase
    obtain ⟨reply, s', hrun, hstore⟩ := ih answer (hnext answer) hphase' after
    refine ⟨reply, s', ?_, hstore.trans hafter⟩
    change Option.bind _ _ = _
    rw [hanswer]
    exact hrun

end Visit

end TeamCalendar
