import TeamCalendar.Proofs.Protocol

/-!
# One transaction for each request

A request that writes does so in one transaction.  It commits when all has been written as it should
be, and otherwise rolls back.  This goes for every storage that answers as it likes, and for all
directories and clocks.

* `Talk.Ordered` says how a talk goes through its phases, and `Talk.Lawful.ordered` that every talk
  does so that keeps to the protocol.
* `Visit.Disciplined` says how a request that writes deals with its transaction, and
  `Visit.disciplined` that every such request does so.
-/

namespace TeamCalendar

/-- Whether a transaction is opened. -/
def Storage.Question.isBegin : Storage.Question → Bool
  | begin => true
  | _ => false

/-- Whether a transaction is committed. -/
def Storage.Question.isCommit : Storage.Question → Bool
  | commit => true
  | _ => false

/-- Whether a question is asked within a transaction only. -/
def Storage.Question.isWriting : Storage.Question → Bool
  | insertEvent _ | insertAttendance _ | lockEvent _ | updateEvent _ | updateStatus .. => true
  | commit => true
  | _ => false

/-- Whether a success is counted or made known. -/
def Surroundings.Question.isNews : Surroundings.Question → Bool
  | count occurrence => occurrence.isSuccess
  | publish _ => true
  | _ => false

/-- How a transaction has been opened and closed, the latest first, by the time of a phase. -/
def Phase.turns : Phase → List (List Storage.Question)
  | .outside => [[]]
  | .inside => [[.begin]]
  | .failing | .settled => [[.commit, .begin]]
  | .over => [[.begin], [.rollback, .begin], [.rollback, .commit, .begin]]

namespace Talk

/-- How a transaction has been opened and closed, the latest first. -/
def turns (talk : Talk) : List Storage.Question :=
  talk.toStorage.filter (·.isTurn)

/-- The successes that have been counted and made known. -/
def news (talk : Talk) : List Surroundings.Question :=
  (talk.map (·.question)).filter (·.isNews)

/-- A talk has gone through its phases to the given one. -/
inductive Ordered : Phase → Talk → Prop where
  | start : Ordered .outside []
  /-- No transaction is opened or closed. -/
  | stay {phase : Phase} {past : Talk} {exchange : Exchange} (h : Ordered phase past)
    (hturn : ∀ q ∈ exchange.toStorage?, q.isTurn = false)
    (hnews : phase ≠ .settled → exchange.question.isNews = false) :
    Ordered phase (exchange :: past)
  | begun {past : Talk} {delay : Nat} (h : Ordered .outside past) :
    Ordered .inside (⟨.storage .begin, ⟨delay, .ok ()⟩⟩ :: past)
  | unbegun {past : Talk} {delay : Nat} {cause : String} (h : Ordered .outside past) :
    Ordered .over (⟨.storage .begin, ⟨delay, .error cause⟩⟩ :: past)
  | committed {past : Talk} {delay : Nat} (h : Ordered .inside past) :
    Ordered .settled (⟨.storage .commit, ⟨delay, .ok ()⟩⟩ :: past)
  | uncommitted {past : Talk} {delay : Nat} {cause : String} (h : Ordered .inside past) :
    Ordered .failing (⟨.storage .commit, ⟨delay, .error cause⟩⟩ :: past)
  | dropped {phase : Phase} {past : Talk} {delay : Nat} (h : Ordered phase past)
    (hphase : phase = .inside ∨ phase = .failing) :
    Ordered .over (⟨.storage .rollback, ⟨delay, ()⟩⟩ :: past)

theorem news_cons {past : Talk} {exchange : Exchange} (h : exchange.question.isNews = true) :
    Talk.news (exchange :: past) = exchange.question :: past.news :=
  List.filter_cons_of_pos h

theorem news_cons_of_not {past : Talk} {exchange : Exchange}
    (h : exchange.question.isNews = false) : Talk.news (exchange :: past) = past.news :=
  List.filter_cons_of_neg (by rw [h]; exact Bool.false_ne_true)

/-! ### What the phase tells of a talk -/

namespace Ordered

variable {phase : Phase} {talk : Talk}

theorem turns_cons {past : Talk} {exchange : Exchange}
    (h : ∀ q ∈ exchange.toStorage?, q.isTurn = false) :
    Talk.turns (exchange :: past) = past.turns := by
  rw [turns, turns, toStorage, List.filterMap_cons]
  cases hq : exchange.toStorage? with
  | none => rfl
  | some q => exact List.filter_cons_of_neg (by rw [h q hq]; exact Bool.false_ne_true)

theorem turns_mem (h : Ordered phase talk) : talk.turns ∈ phase.turns := by
  induction h with
  | start => exact List.mem_singleton_self _
  | stay h hturn hnews ih =>
    rw [turns_cons hturn]
    exact ih
  | begun h ih =>
    have hpast := List.mem_singleton.1 ih
    exact List.mem_singleton.2 (congrArg (List.cons _) hpast)
  | unbegun h ih =>
    have hpast := List.mem_singleton.1 ih
    exact List.mem_cons.2 (.inl (congrArg (List.cons _) hpast))
  | committed h ih =>
    have hpast := List.mem_singleton.1 ih
    exact List.mem_singleton.2 (congrArg (List.cons _) hpast)
  | uncommitted h ih =>
    have hpast := List.mem_singleton.1 ih
    exact List.mem_singleton.2 (congrArg (List.cons _) hpast)
  | dropped h hphase ih =>
    rcases hphase with rfl | rfl
    · have hpast := List.mem_singleton.1 ih
      exact List.mem_cons_of_mem _ (List.mem_cons.2 (.inl (congrArg (List.cons _) hpast)))
    · have hpast := List.mem_singleton.1 ih
      exact List.mem_cons_of_mem _ (List.mem_cons_of_mem _
        (List.mem_singleton.2 (congrArg (List.cons _) hpast)))

theorem news_eq_nil (h : Ordered phase talk) (hphase : phase ≠ .settled) : talk.news = [] := by
  induction h with
  | start => rfl
  | stay h hturn hnews ih =>
    rw [news_cons_of_not (hnews hphase)]
    exact ih hphase
  | begun h ih => exact ih nofun
  | unbegun h ih => exact ih nofun
  | committed h ih => exact absurd rfl hphase
  | uncommitted h ih => exact ih nofun
  | dropped h hopen ih =>
    refine ih fun hsettled => ?_
    rcases hopen with rfl | rfl
    · cases hsettled
    · cases hsettled

theorem mem_toStorage_cons {past : Talk} {exchange : Exchange} {q : Storage.Question}
    (h : q ∈ past.toStorage) : q ∈ Talk.toStorage (exchange :: past) := by
  obtain ⟨earlier, hmem, hq⟩ := List.mem_filterMap.1 h
  exact List.mem_filterMap.2 ⟨earlier, List.mem_cons_of_mem _ hmem, hq⟩

theorem mem_turns {q : Storage.Question} {answer : Storage.Answer q} (h : talk.Stored q answer)
    (hturn : q.isTurn = true) : q ∈ talk.turns := by
  obtain ⟨delay, hmem⟩ := h
  exact List.mem_filter.2 ⟨List.mem_filterMap.2 ⟨_, hmem, rfl⟩, hturn⟩

/-- A commit has succeeded exactly in one phase. -/
theorem stored_commit_iff (h : Ordered phase talk) :
    talk.Stored .commit (.ok ()) ↔ phase = .settled := by
  constructor
  · intro hstored
    induction h with
    | start =>
      obtain ⟨delay, hmem⟩ := hstored
      cases hmem
    | stay h hturn hnews ih =>
      rcases hstored.head_or_tail with ⟨delay, rfl⟩ | hpast
      · exact Bool.noConfusion (hturn .commit rfl)
      · exact ih hpast
    | begun h ih =>
      rcases hstored.head_or_tail with ⟨delay, hhead⟩ | hpast
      · cases hhead
      · exact Phase.noConfusion (ih hpast)
    | unbegun h ih =>
      rcases hstored.head_or_tail with ⟨delay, hhead⟩ | hpast
      · cases hhead
      · exact Phase.noConfusion (ih hpast)
    | committed h ih => rfl
    | uncommitted h ih =>
      rcases hstored.head_or_tail with ⟨delay, hhead⟩ | hpast
      · cases hhead
      · exact Phase.noConfusion (ih hpast)
    | dropped h hopen ih =>
      rcases hstored.head_or_tail with ⟨delay, hhead⟩ | hpast
      · cases hhead
      · rcases hopen with rfl | rfl
        · exact Phase.noConfusion (ih hpast)
        · exact Phase.noConfusion (ih hpast)
  · intro hsettled
    induction h with
    | stay h hturn hnews ih => exact (ih hsettled).cons
    | committed h ih => exact Talk.stored_head rfl
    | _ => cases hsettled

/-- A transaction that has been opened and is over has been rolled back. -/
theorem rollback_mem (h : Ordered .over talk) (hbegun : talk.Stored .begin (.ok ())) :
    .rollback ∈ talk.toStorage := by
  generalize hphase : Phase.over = phase at h
  induction h with
  | stay h hturn hnews ih =>
    rcases hbegun.head_or_tail with ⟨delay, rfl⟩ | hpast
    · exact Bool.noConfusion (hturn .begin rfl)
    · exact mem_toStorage_cons (ih hpast hphase)
  | unbegun h ih =>
    rcases hbegun.head_or_tail with ⟨delay, hhead⟩ | hpast
    · cases hhead
    · have hturns := List.mem_singleton.1 h.turns_mem
      have hmem := mem_turns hpast rfl
      rw [hturns] at hmem
      cases hmem
  | dropped h hopen ih => exact List.mem_cons_self
  | _ => cases hphase

end Ordered

end Talk

/-- There is no news before the commit. -/
theorem Visit.Allows.isNews {visit : Visit} {past : Talk} {q : Surroundings.Question}
    (h : visit.Allows past q) (hphase : past.phase ≠ .settled) : q.isNews = false := by
  cases q with
  | count occurrence =>
    cases hsuccess : occurrence.isSuccess with
    | false => exact hsuccess
    | true => exact absurd (h hsuccess) hphase
  | publish change => exact absurd h hphase
  | directory q => rfl
  | storage q => rfl
  | now => rfl
  | tally => rfl

namespace Talk

variable {visit : Visit} {talk : Talk}

/-- An exchange that does not open or close a transaction stays in the phase. -/
theorem Ordered.stay_of_allows {past : Talk} {exchange : Exchange} (h : Ordered past.phase past)
    (hallowed : visit.Allows past exchange.question)
    (hturn : ∀ q ∈ exchange.toStorage?, q.isTurn = false) :
    Ordered (Talk.phase (exchange :: past)) (exchange :: past) := by
  rw [phase_cons hturn]
  exact .stay h hturn fun hsettled => hallowed.isNews hsettled

/-- Every talk that keeps to the protocol goes through the phases. -/
theorem Lawful.ordered (h : Talk.Lawful visit.Allows talk) : Ordered talk.phase talk := by
  induction talk with
  | nil => exact .start
  | cons exchange past ih =>
    obtain ⟨hallowed, hpast⟩ := h
    have hordered := ih hpast
    obtain ⟨question, answer⟩ := exchange
    cases question with
    | storage q =>
      cases q with
      | begin =>
        rw [hallowed.2] at hordered
        obtain ⟨delay, answer⟩ := answer
        cases answer with
        | ok => exact .begun hordered
        | error cause => exact .unbegun hordered
      | commit =>
        rw [hallowed.1] at hordered
        obtain ⟨delay, answer⟩ := answer
        cases answer with
        | ok => exact .committed hordered
        | error cause => exact .uncommitted hordered
      | rollback => exact .dropped hordered hallowed
      | _ => exact hordered.stay_of_allows hallowed fun q hq => by cases hq; rfl
    | _ => exact hordered.stay_of_allows hallowed fun q hq => by cases hq

theorem countP_turns {p : Storage.Question → Bool} (h : ∀ q, p q = true → q.isTurn = true) :
    talk.turns.countP p = talk.toStorage.countP p := by
  rw [turns, List.countP_filter]
  refine List.countP_congr fun q _ => ?_
  rw [Bool.and_eq_true]
  exact ⟨fun hq => hq.1, fun hq => ⟨hq, h q hq⟩⟩

/-- What has been asked was allowed when it was asked. -/
theorem Lawful.allows {later earlier : Talk} {exchange : Exchange}
    (h : Talk.Lawful visit.Allows talk) (hsplit : talk = later ++ exchange :: earlier) :
    visit.Allows earlier exchange.question ∧ Talk.Lawful visit.Allows earlier := by
  subst hsplit
  exact h.of_append

end Talk

theorem Phase.countP_isBegin_le {phase : Phase} {turns : List Storage.Question}
    (h : turns ∈ phase.turns) : turns.countP (·.isBegin) ≤ 1 := by
  cases phase <;> simp only [Phase.turns, List.mem_cons, List.not_mem_nil, or_false] at h <;>
    rcases h with rfl | rfl | rfl <;> decide

theorem Phase.countP_isCommit_le {phase : Phase} {turns : List Storage.Question}
    (h : turns ∈ phase.turns) : turns.countP (·.isCommit) ≤ 1 := by
  cases phase <;> simp only [Phase.turns, List.mem_cons, List.not_mem_nil, or_false] at h <;>
    rcases h with rfl | rfl | rfl <;> decide

namespace Visit

/-- How a request that writes deals with its transaction, given what has been said and how the
request has ended. -/
structure Disciplined (visit : Visit) (talk : Talk) (result : Except Refusal Reply) : Prop where
  /-- At most one transaction is opened. -/
  begins : talk.toStorage.countP (·.isBegin) ≤ 1
  /-- It is committed at most once. -/
  commits : talk.toStorage.countP (·.isCommit) ≤ 1
  /-- Writing needs the open transaction. -/
  inside : ∀ {later earlier : Talk} {q : Storage.Question}
    {answer : Surroundings.Answer (.storage q)}, talk = later ++ ⟨.storage q, answer⟩ :: earlier →
      q.isWriting = true → earlier.phase = .inside
  /-- The commit is asked for only after everything has been written as it should be. -/
  earned : ∀ {later earlier : Talk} {answer : Surroundings.Answer (.storage .commit)},
    talk = later ++ ⟨.storage .commit, answer⟩ :: earlier → ∃ reply, visit.Earned earlier reply
  /-- A transaction that is not committed is rolled back. -/
  dropped : talk.Stored .begin (.ok ()) → ¬ talk.Stored .commit (.ok ()) →
    .rollback ∈ talk.toStorage
  /-- Without a commit the request is refused, and no success is counted or made known. -/
  refused : ¬ talk.Stored .commit (.ok ()) →
    (∃ refusal, result = .error refusal) ∧ talk.news = []
  /-- After the commit the request gets the reply that it has earned, and this success is counted and
  made known once. -/
  accepted : talk.Stored .commit (.ok ()) →
    ∃ reply occurrence kind event time, result = .ok reply ∧ visit.Told reply talk ∧
      reply.success? = some (occurrence, kind, event) ∧
      talk.news = [.publish ⟨kind, event, visit.requester, visit.operation.status?, time⟩,
        .count occurrence] ∧
      .rollback ∉ talk.toStorage

variable {visit : Visit} {talk : Talk} {reply : Reply}

/-- The news of a success, and nothing else, is told. -/
theorem Told.news (h : visit.Told reply talk) (hlawful : Talk.Lawful visit.Allows talk) :
    ∃ occurrence kind event time, reply.success? = some (occurrence, kind, event) ∧
      talk.news = [.publish ⟨kind, event, visit.requester, visit.operation.status?, time⟩,
        .count occurrence] := by
  cases h with
  | @intro occurrence kind event status time talk hsuccess hstatus hcommitted =>
    subst hstatus
    refine ⟨occurrence, kind, event, time, hsuccess, ?_⟩
    have hoccurrence : occurrence.isSuccess = true := by
      cases reply <;> cases hsuccess <;> rfl
    cases hcommitted with
    | @intro delay before hinside hearned =>
      have hbefore : before.news = [] := by
        refine (Talk.Lawful.ordered hlawful.2.2.2.2).news_eq_nil ?_
        rw [hinside]
        nofun
      have hcount : (Exchange.mk (.count occurrence) ()).question.isNews = true := hoccurrence
      rw [Talk.news_cons rfl, Talk.news_cons_of_not rfl, Talk.news_cons hcount,
        Talk.news_cons_of_not rfl, hbefore]

theorem Told.stored_commit (h : visit.Told reply talk) : talk.Stored .commit (.ok ()) := by
  cases h with
  | intro hsuccess hstatus hcommitted =>
    cases hcommitted with
    | intro hinside hearned => exact Talk.Stored.cons (.cons (.cons (Talk.stored_head rfl)))

/-- Every request that writes deals with its transaction as it should, whoever answers. -/
theorem disciplined (visit : Visit) (hwrites : visit.operation.writes = true)
    (respond : Respondent) :
    visit.Disciplined (visit.service.converse respond).2 (visit.service.converse respond).1 := by
  obtain ⟨hlawful, hend⟩ := visit.keeps_service.converse trivial respond
  change Talk.Lawful visit.Allows (visit.service.converse respond).2 at hlawful
  change Service.outcome visit.Ends _ (visit.service.converse respond).2
    (visit.service.converse respond).1 at hend
  generalize (visit.service.converse respond).1 = result at hend
  generalize (visit.service.converse respond).2 = talk at hlawful hend
  have hordered := hlawful.ordered
  have hcommitted := hordered.stored_commit_iff
  constructor
  · rw [← Talk.countP_turns fun q hq => by cases q <;> first | rfl | cases hq]
    exact Phase.countP_isBegin_le hordered.turns_mem
  · rw [← Talk.countP_turns fun q hq => by cases q <;> first | rfl | cases hq]
    exact Phase.countP_isCommit_le hordered.turns_mem
  · intro later earlier q answer hsplit hwriting
    have hallowed := (hlawful.allows hsplit).1
    cases q with
    | insertEvent new => exact hallowed.1
    | insertAttendance records => exact hallowed.1
    | lockEvent id => exact hallowed
    | updateEvent event => exact hallowed
    | updateStatus eventId userId status now => exact hallowed
    | commit => exact hallowed.1
    | _ => cases hwriting
  · intro later earlier answer hsplit
    exact (hlawful.allows hsplit).1.2
  · intro hbegun huncommitted
    cases result with
    | error refusal =>
      have hbegin := Talk.Ordered.mem_turns hbegun rfl
      rcases hend with hend | hend
      · have hturns := hordered.turns_mem
        rw [hend] at hturns
        rw [List.mem_singleton.1 hturns] at hbegin
        cases hbegin
      · rw [hend] at hordered
        exact hordered.rollback_mem hbegun
    | ok reply =>
      cases hend with
      | wrote _ htold => exact absurd htold.stored_commit huncommitted
      | read hreads _ => exact Bool.noConfusion (hwrites.symm.trans hreads)
  · intro huncommitted
    have hphase : talk.phase ≠ .settled := fun hsettled => huncommitted (hcommitted.2 hsettled)
    refine ⟨?_, hordered.news_eq_nil hphase⟩
    cases result with
    | error refusal => exact ⟨refusal, rfl⟩
    | ok reply =>
      cases hend with
      | wrote _ htold => exact absurd htold.stored_commit huncommitted
      | read hreads _ => exact Bool.noConfusion (hwrites.symm.trans hreads)
  · intro hstored
    have hphase := hcommitted.1 hstored
    cases result with
    | error refusal =>
      rcases hend with hend | hend
      · exact Phase.noConfusion (hphase.symm.trans hend)
      · exact Phase.noConfusion (hphase.symm.trans hend)
    | ok reply =>
      cases hend with
      | wrote _ htold =>
        obtain ⟨occurrence, kind, event, time, hsuccess, hnews⟩ := htold.news hlawful
        refine ⟨reply, occurrence, kind, event, time, rfl, htold, hsuccess, hnews, fun hrollback => ?_⟩
        have hturns := hordered.turns_mem
        rw [hphase] at hturns
        have hmem : .rollback ∈ talk.turns := List.mem_filter.2 ⟨hrollback, rfl⟩
        rw [List.mem_singleton.1 hturns] at hmem
        simp at hmem
      | read hreads _ => exact Bool.noConfusion (hwrites.symm.trans hreads)

end Visit

/-- A storage that takes everything and then fails to commit it. -/
def Sample.losing : (q : Storage.Question) → Storage.Answer q
  | .begin | .ping => .ok ()
  | .findEvent _ | .lockEvent _ => .ok none
  | .listTeamEvents _ => .ok []
  | .listAttendance _ => .ok []
  | .insertEvent new => .ok { new with id := Sample.trainingId }
  | .insertAttendance records => .ok records.length
  | .updateEvent _ | .updateStatus .. => .ok true
  | .commit => .error "lost"
  | .rollback => ()

/-- The team's directories, with a storage that loses what it has taken. -/
def Sample.lossy : Respondent := fun _ q =>
  match q with
  | .directory q => Sample.rehearsal.collaborators.directory q
  | .storage q => ⟨0, Sample.losing q⟩
  | .now => .epoch
  | .count _ | .publish _ => ()
  | .tally => {}

/-- The coach creates an event, and the storage loses it in the commit. -/
theorem Visit.disciplined_sample :
    (Sample.visit Sample.coach (.create Sample.training)).operation.writes = true ∧
      (Sample.visit Sample.coach (.create Sample.training)).Disciplined
        ((Sample.visit Sample.coach (.create Sample.training)).service.converse Sample.lossy).2
        ((Sample.visit Sample.coach (.create Sample.training)).service.converse Sample.lossy).1 :=
  ⟨rfl, disciplined _ rfl Sample.lossy⟩

end TeamCalendar
