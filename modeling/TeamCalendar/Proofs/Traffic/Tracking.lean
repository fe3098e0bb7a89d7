import TeamCalendar.Proofs.Traffic.Alone
import TeamCalendar.Proofs.Traffic.Serial

/-!
# Keeping track of a request amid traffic

Each request on its way is compared with itself alone.  Until it opens its transaction, it would
have come as far with any tables in which the events are still there; from then on, with the tables
as they were at that time, for nobody else can change them meanwhile.

* `Flight.Tracked` is what is known of a request amid traffic.
* `Flight.Tracked.hear` says that it is still known after a step of the request, and
  `Flight.Tracked.overhear` after a step of another one.
-/

namespace TeamCalendar

namespace Store.Alike

variable {first second third : Store}

theorem refl (store : Store) : store.Alike store :=
  ⟨rfl, rfl, rfl⟩

theorem symm (h : first.Alike second) : second.Alike first :=
  ⟨h.committed.symm, h.staged.symm, h.ids.symm⟩

theorem trans (h : first.Alike second) (h' : second.Alike third) : first.Alike third :=
  ⟨h'.committed.trans h.committed, h'.staged.trans h.staged, h'.ids.trans h.ids⟩

end Store.Alike

namespace Store

variable {store after : Store}

/-- What another store has kept of a store, within a transaction or outside of one. -/
structure Kept (store after : Store) (q : Storage.Question) : Prop where
  committed : after.committed = store.committed
  staged : store.staged ≠ none → after.staged ≠ none
  ids : (∀ new, q ≠ .insertEvent new) → after.ids = store.ids

theorem Kept.refl (store : Store) (q : Storage.Question) : store.Kept store q :=
  ⟨rfl, id, fun _ => rfl⟩

theorem kept_stage (store : Store) (tx : Transaction) (q : Storage.Question) :
    store.Kept (store.stage tx) q :=
  ⟨rfl, fun _ => Option.some_ne_none _, fun _ => rfl⟩

theorem kept_within {α : Type} {act : Transaction → Except String α × Store} {q : Storage.Question}
    (h : ∀ tx, store.Kept (act tx).2 q) : store.Kept (store.within act).2 q := by
  rw [within]
  cases store.transaction? with
  | none => exact .refl store q
  | some tx => exact h tx

theorem kept_insertAttendance (store : Store) (tx : Transaction) (records : List AttendanceRecord)
    (q : Storage.Question) : store.Kept (store.insertAttendance tx records).2 q := by
  rw [insertAttendance]
  split
  · exact ⟨rfl, id, fun _ => rfl⟩
  · cases tx.batch records with
    | error fault => exact ⟨rfl, id, fun _ => rfl⟩
    | ok batch => exact ⟨rfl, fun _ => Option.some_ne_none _, fun _ => rfl⟩

/-- A question that does not open or close a transaction keeps the committed tables and the
transaction. -/
theorem kept_answer? {q : Storage.Question} {answer : Storage.Answer q} (hq : q.isTurn = false)
    (h : answer? q store = some (answer, after)) : store.Kept after q := by
  have hafter : ∀ outcome : Storage.Answer q × Store, answer? q store = some outcome →
      store.Kept outcome.2 q := by
    intro outcome houtcome
    cases q with
    | begin => cases hq
    | commit => cases hq
    | rollback => cases hq
    | insertEvent new =>
      cases houtcome
      exact kept_within fun tx =>
        ⟨rfl, fun _ => Option.some_ne_none _, fun hother => absurd rfl (hother new)⟩
    | insertAttendance records =>
      cases houtcome
      exact kept_within fun tx => kept_insertAttendance store tx records _
    | updateEvent event =>
      cases houtcome
      refine kept_within fun tx => ?_
      cases tx.updateEvent? event with
      | none => exact .refl store _
      | some tx' => exact kept_stage store tx' _
    | updateStatus eventId userId status now =>
      cases houtcome
      refine kept_within fun tx => ?_
      cases tx.updateStatus? ⟨eventId, userId⟩ status now with
      | none => exact .refl store _
      | some tx' => exact kept_stage store tx' _
    | lockEvent id =>
      cases houtcome
      exact kept_within fun tx => .refl store _
    | findEvent id => cases houtcome; exact .refl store _
    | listTeamEvents teamId => cases houtcome; exact .refl store _
    | listAttendance id => cases houtcome; exact .refl store _
    | ping => cases houtcome; exact .refl store _
  exact hafter _ h

/-- A transaction is opened only if none is open. -/
theorem answer?_begin_eq_some {answer : Storage.Answer .begin}
    (h : answer? .begin store = some (answer, after)) :
    store.staged = none ∧ answer = .ok () ∧ after = { store with staged := some {} } := by
  cases hstaged : store.staged with
  | none =>
    rw [answer?_begin hstaged] at h
    cases h
    exact ⟨rfl, rfl, rfl⟩
  | some staged =>
    rw [answer?_begin_busy (by rw [hstaged]; nofun)] at h
    cases h

/-- An open transaction can be committed. -/
theorem answer?_commit_eq_some {answer : Storage.Answer .commit} (hopen : store.staged ≠ none)
    (h : answer? .commit store = some (answer, after)) :
    answer = .ok () ∧ after.staged = none := by
  obtain ⟨staged, hstaged⟩ := Option.ne_none_iff_exists'.1 hopen
  rw [answer?_commit hstaged] at h
  cases h
  exact ⟨rfl, rfl⟩

end Store

namespace Flight

/-- The request would have come as far if it had been alone with the given tables. -/
def Shadowed (flight : Flight) (tables : Tables) (ids : IdSource) (holds : Store → Prop) : Prop :=
  ∃ talk rest s, Proceeds flight.visit (.alone tables ids) talk rest s ∧
    flight.rest.Alike rest ∧ talk.questions = flight.past.questions ∧ holds s.store

theorem Shadowed.mono {flight : Flight} {tables : Tables} {ids : IdSource}
    {holds holds' : Store → Prop} (h : flight.Shadowed tables ids holds)
    (himp : ∀ store, holds store → holds' store) : flight.Shadowed tables ids holds' := by
  obtain ⟨talk, rest, s, hproceeds, halike, hasked, hstore⟩ := h
  exact ⟨talk, rest, s, hproceeds, halike, hasked, himp _ hstore⟩

/-- The request creates an event, and has been told that attendance cannot be written. -/
def Spoiled (flight : Flight) : Prop :=
  (∃ new, flight.visit.operation = .create new) ∧
    ∃ records cause, flight.past.Stored (.insertAttendance records) (.error cause)

/-- What is known of the request that has the open transaction. -/
structure Inside (flight : Flight) (store : Store) : Prop where
  held : store.staged ≠ none
  fresh : (∃ new, .storage (.insertEvent new) ∈ flight.past.questions) →
    store.committed.events[(flight.ids.draw : EventId × IdSource).1]? = none
  undrawn : (∀ new, .storage (.insertEvent new) ∉ flight.past.questions) → store.ids = flight.ids
  shadowed : flight.Spoiled ∨ flight.rest.Closing ∨
    flight.Shadowed store.committed flight.ids fun store' =>
      store.Alike store' ∧ store'.failing = false

/-- The records of an event that has been created are whole. -/
def Whole (landed : List Landing) (id : EventId) (records : List AttendanceRecord) : Prop :=
  ∃ landing ∈ landed, ∃ roster, landing.Creates id roster ∧
    AttendanceRecord.OneForEach records id roster

/-- What is known of a request amid traffic. -/
structure Tracked (flight : Flight) (store : Store) (landed : List Landing) : Prop where
  lawful : Talk.Lawful flight.visit.Allows flight.past
  keeps : flight.rest.Keeps flight.visit.Allows
    (Service.outcome (fun talk reply => flight.visit.Ends talk reply) fun talk _ => Visit.Fails talk)
    flight.past
  start : flight.past = [] → flight.rest = ExceptT.run flight.visit.service
  working : flight.past.phase ≠ .failing
  outside : flight.past.phase = .outside → flight.visit.operation.writes = true →
    flight.rest.Closing ∨ ∀ tables ids, store.committed.Lasts tables →
      flight.Shadowed tables ids fun store' => store' = { committed := tables, ids }
  inside : flight.past.phase = .inside → flight.Inside store
  found : ∀ {id : EventId} {event : Event},
    flight.past.Stored (.findEvent id) (.ok (some event)) →
    ∃ event', store.committed.events[id]? = some event'
  listed : ∀ {id : EventId} {answer : Storage.Answer (.listAttendance id)},
    flight.past.Stored (.listAttendance id) answer →
    ∃ records, answer = .ok records ∧ Whole landed id records

theorem tracked_arriving (visit : Visit) (store : Store) (landed : List Landing) :
    (arriving visit store.ids).Tracked store landed where
  lawful := trivial
  keeps := visit.keeps_service
  start _ := rfl
  working := nofun
  outside _ _ := .inr fun tables ids _ =>
    ⟨[], _, _, .start, .refl _, rfl, rfl⟩
  inside := nofun
  found hfound := by
    obtain ⟨delay, hmem⟩ := hfound
    cases hmem
  listed hlisted := by
    obtain ⟨delay, hmem⟩ := hlisted
    cases hmem

/-- What happens elsewhere does not matter, as long as events stay and an open transaction is left
alone. -/
theorem Tracked.overhear {flight : Flight} {store after : Store} {landed landed' : List Landing}
    (h : flight.Tracked store landed) (hlasts : store.committed.Lasts after.committed)
    (hlanded : ∀ landing ∈ landed, landing ∈ landed')
    (hinside : flight.past.phase = .inside → store.Alike after) : flight.Tracked after landed' where
  lawful := h.lawful
  keeps := h.keeps
  start := h.start
  working := h.working
  outside hphase hwrites :=
    (h.outside hphase hwrites).imp_right fun hshadowed tables ids hlater =>
      hshadowed tables ids (hlasts.trans hlater)
  inside hphase := by
    have halike := hinside hphase
    obtain ⟨hheld, hfresh, hundrawn, hshadowed⟩ := h.inside hphase
    refine ⟨?_, ?_, ?_, ?_⟩
    · rw [halike.staged]
      exact hheld
    · rw [halike.committed]
      exact hfresh
    · rw [halike.ids]
      exact hundrawn
    · rw [halike.committed]
      refine hshadowed.imp_right (Or.imp_right ?_)
      rintro ⟨talk, rest, s, hproceeds, hrest, hasked, hstore, hfailing⟩
      exact ⟨talk, rest, s, hproceeds, hrest, hasked, halike.symm.trans hstore, hfailing⟩
  found hfound := by
    obtain ⟨event, hevent⟩ := h.found hfound
    obtain ⟨event', hevent', -⟩ := hlasts _ event hevent
    exact ⟨event', hevent'⟩
  listed hlisted := by
    obtain ⟨records, hanswer, landing, hmem, hrecords⟩ := h.listed hlisted
    exact ⟨records, hanswer, landing, hlanded landing hmem, hrecords⟩

/-- Outside of a transaction no event has been written. -/
theorem not_insertEvent_of_outside {visit : Visit} {past : Talk}
    (h : Talk.Lawful visit.Allows past) (hphase : Talk.phase past = .outside) (new : NewEvent) :
    .storage (.insertEvent new) ∉ Talk.questions past := by
  induction past with
  | nil => exact List.not_mem_nil
  | cons exchange past ih =>
    obtain ⟨hallowed, hpast⟩ := h
    have houtside : Talk.phase past = .outside := by
      rw [← Talk.phase_cons (Talk.stays_of_outside hphase)]
      exact hphase
    intro hmem
    rcases List.mem_cons.1 hmem with hhead | hmem
    · change _ = exchange.question at hhead
      rw [← hhead] at hallowed
      exact Phase.noConfusion (houtside.symm.trans hallowed.1)
    · exact ih hpast houtside hmem

/-! ### The steps of the request itself -/

section Steps

variable {flight : Flight} {store : Store} {landed : List Landing} {q : Surroundings.Question}
  {next : Surroundings.Answer q → Dialogue Surroundings (Except Refusal Reply)}
  {answer : Surroundings.Answer q} {after : Scene}

theorem Tracked.allows (h : flight.Tracked store landed) (hrest : flight.rest = .ask q next) :
    flight.visit.Allows flight.past q ∧
      ∀ answer, (next answer).Keeps flight.visit.Allows
        (Service.outcome (fun talk reply => flight.visit.Ends talk reply)
          fun talk _ => Visit.Fails talk) (⟨q, answer⟩ :: flight.past) := by
  have hkeeps := h.keeps
  rw [hrest] at hkeeps
  exact hkeeps

/-- A request without a transaction leaves the store alone while another one has a transaction. -/
theorem Tracked.store_eq (h : flight.Tracked store landed) (hrest : flight.rest = .ask q next)
    (hbusy : store.staged ≠ none) (houtside : flight.past.phase ≠ .inside)
    (hanswer : Scene.answer flight.visit.collaborators q (flight.scene store) =
      some (answer, after)) : after.store = store := by
  have hallowed := (h.allows hrest).1
  cases q with
  | storage q =>
    obtain ⟨delay, answer⟩ := answer
    obtain ⟨-, hstore⟩ := Scene.answer_storage hanswer
    cases q with
    | begin => exact absurd (Store.answer?_begin_eq_some hstore).1 hbusy
    | findEvent id => cases hstore; rfl
    | listTeamEvents teamId => cases hstore; rfl
    | listAttendance id => cases hstore; rfl
    | ping => exact hallowed.elim
    | insertEvent new => exact absurd hallowed.1 houtside
    | insertAttendance records => exact absurd hallowed.1 houtside
    | lockEvent id => exact absurd hallowed houtside
    | updateEvent event => exact absurd hallowed houtside
    | updateStatus eventId userId status now => exact absurd hallowed houtside
    | commit => exact absurd hallowed.1 houtside
    | rollback =>
      rcases hallowed with hallowed | hallowed
      · exact absurd hallowed houtside
      · exact absurd hallowed h.working
  | directory q => cases hanswer; rfl
  | now => cases hanswer; rfl
  | count occurrence => cases hanswer; rfl
  | tally => exact hallowed.elim
  | publish change => cases hanswer; rfl

/-- A request that is alone takes a step with a store that is alike. -/
theorem Shadowed.hear {tables : Tables} {ids : IdSource}
    (h : flight.Shadowed tables ids fun store' => store.Alike store' ∧ store'.failing = false)
    (hrest : flight.rest = .ask q next) (htally : q ≠ .tally)
    (hworking : (∃ records, q = .storage (.insertAttendance records)) → store.failing = false)
    (hanswer : Scene.answer flight.visit.collaborators q (flight.scene store) =
      some (answer, after)) :
    (next answer).Closing ∨
      (flight.hear ⟨q, answer⟩ (next answer) store).Shadowed tables ids fun store' =>
        after.store.Alike store' ∧ store'.failing = false := by
  obtain ⟨talk, rest, s, hproceeds, halike, hasked, hstore, hfailing⟩ := h
  rw [hrest] at halike
  rcases halike.of_ask with hclosing | ⟨next', rfl, hnext⟩
  · exact .inl (hclosing answer)
  · have hscene : s.asked = (flight.scene store).asked := (hproceeds.asked rfl).trans hasked
    obtain ⟨after', hanswer', hafter, hfailing'⟩ := Scene.answer_alike htally hscene hstore
      (fun hattendance => hfailing.trans (hworking hattendance).symm) hanswer
    refine .inr ⟨_, _, after', hproceeds.ask hanswer', hnext answer, ?_, hafter,
      hfailing'.trans hfailing⟩
    rw [Talk.questions, List.map_cons, ← Talk.questions, hasked]
    rfl

/-- A request that is alone asks its directories or its clock. -/
theorem Shadowed.hear_aside {tables : Tables} {ids : IdSource}
    (h : flight.Shadowed tables ids fun store' => store' = { committed := tables, ids })
    (hrest : flight.rest = .ask q next) (hq : q.isStored = false) (htally : q ≠ .tally)
    (hanswer : Scene.answer flight.visit.collaborators q (flight.scene store) =
      some (answer, after)) :
    (next answer).Closing ∨
      (flight.hear ⟨q, answer⟩ (next answer) store).Shadowed tables ids fun store' =>
        store' = { committed := tables, ids } := by
  obtain ⟨talk, rest, s, hproceeds, halike, hasked, hstore⟩ := h
  rw [hrest] at halike
  rcases halike.of_ask with hclosing | ⟨next', rfl, hnext⟩
  · exact .inl (hclosing answer)
  · have hscene : s.asked = (flight.scene store).asked := (hproceeds.asked rfl).trans hasked
    obtain ⟨-, after', hanswer', hafter⟩ := Scene.answer_aside hq htally hscene hanswer
    refine .inr ⟨_, _, after', hproceeds.ask hanswer', hnext answer, ?_, hafter.trans hstore⟩
    rw [Talk.questions, List.map_cons, ← Talk.questions, hasked]
    rfl

/-- A response that has found its event would have gone on alike with any later tables. -/
theorem shadowed_findEvent {id : EventId} {status : Status}
    {next : Timed (Except String (Option Event)) → Dialogue Surroundings (Except Refusal Reply)}
    (hoperation : flight.visit.operation = .respond id status) (hpast : flight.past = [])
    (hstart : flight.rest = ExceptT.run flight.visit.service)
    (hrest : flight.rest = .ask (.storage (.findEvent id)) next) :
    (next ⟨0, .ok store.committed.events[id]?⟩).Closing ∨
      ∀ tables ids, store.committed.Lasts tables →
        (flight.hear ⟨.storage (.findEvent id), ⟨0, .ok store.committed.events[id]?⟩⟩
          (next ⟨0, .ok store.committed.events[id]?⟩) store).Shadowed tables ids
          fun store' => store' = { committed := tables, ids } := by
  obtain ⟨first, hfirst, hnone, hsome⟩ := Service.exists_run_respond flight.visit.settings
    flight.visit.requester id status
  have hservice : ExceptT.run flight.visit.service = .ask (.storage (.findEvent id)) first := by
    rw [Visit.service, hoperation]
    exact hfirst
  have hsame : next = first := by
    have hask := hrest.symm.trans (hstart.trans hservice)
    injection hask
  subst hsame
  cases hevent : store.committed.events[id]? with
  | none => exact .inl hnone
  | some event =>
    refine .inr fun tables ids hlasts => ?_
    obtain ⟨event', hevent', hteam⟩ := hlasts id event hevent
    have halone : Scene.answer flight.visit.collaborators (.storage (.findEvent id))
        (.alone tables ids) = some (⟨0, .ok (some event')⟩,
          (Scene.alone tables ids).note (.storage (.findEvent id))) := by
      rw [← hevent']
      rfl
    have hproceeds : Proceeds flight.visit (.alone tables ids) []
        (.ask (.storage (.findEvent id)) next) (.alone tables ids) := by
      rw [← hservice]
      exact .start
    have hasked : [.storage (.findEvent id)] =
        Surroundings.Question.storage (.findEvent id) :: flight.past.questions := by
      rw [hpast]
      rfl
    exact ⟨_, _, _, hproceeds.ask halone, hsome event event' hteam, hasked, rfl⟩

/-- Until a request opens its transaction, it would have come as far with any later tables. -/
theorem Tracked.hear_outside (h : flight.Tracked store landed) (hrest : flight.rest = .ask q next)
    (hanswer : Scene.answer flight.visit.collaborators q (flight.scene store) =
      some (answer, after))
    (hphase : Talk.phase (⟨q, answer⟩ :: flight.past) = .outside)
    (hwrites : flight.visit.operation.writes = true) :
    (next answer).Closing ∨ ∀ tables ids, after.store.committed.Lasts tables →
      (flight.hear ⟨q, answer⟩ (next answer) store).Shadowed tables ids
        fun store' => store' = { committed := tables, ids } := by
  have hallowed := (h.allows hrest).1
  have htally : q ≠ .tally := by
    rintro rfl
    exact hallowed
  have hstay := Talk.stays_of_outside hphase
  rw [Talk.phase_cons hstay] at hphase
  cases hq : q.isStored with
  | false =>
    rw [(Scene.answer_aside hq htally rfl hanswer).1]
    rcases h.outside hphase hwrites with hclosing | hshadowed
    · rw [hrest] at hclosing
      exact .inl (hclosing.2 answer)
    · by_cases hclosing : (next answer).Closing
      · exact .inl hclosing
      · exact .inr fun tables ids hlater =>
          ((hshadowed tables ids hlater).hear_aside hrest hq htally hanswer).resolve_left hclosing
  | true =>
    cases q with
    | storage q =>
      obtain ⟨delay, value⟩ := answer
      obtain ⟨hdelay, hstore⟩ := Scene.answer_storage hanswer
      cases hdelay
      cases q with
      | findEvent id =>
        obtain ⟨hvalue, hafter⟩ := Prod.mk.inj (Option.some.inj hstore)
        cases hvalue
        rw [← hafter]
        rcases hallowed.2 with hread | ⟨status, hrespond⟩
        · rw [hread] at hwrites
          cases hwrites
        · exact shadowed_findEvent hrespond hallowed.1 (h.start hallowed.1) hrest
      | begin => exact Bool.noConfusion (hstay .begin rfl)
      | commit => exact Bool.noConfusion (hstay .commit rfl)
      | rollback => exact Bool.noConfusion (hstay .rollback rfl)
      | listTeamEvents teamId =>
        rw [hallowed.1] at hwrites
        cases hwrites
      | listAttendance id =>
        rw [hallowed.1] at hwrites
        cases hwrites
      | ping => exact hallowed.elim
      | insertEvent new => exact Phase.noConfusion (hphase.symm.trans hallowed.1)
      | insertAttendance records => exact Phase.noConfusion (hphase.symm.trans hallowed.1)
      | lockEvent id => exact Phase.noConfusion (hphase.symm.trans hallowed)
      | updateEvent event => exact Phase.noConfusion (hphase.symm.trans hallowed)
      | updateStatus eventId userId status now =>
        exact Phase.noConfusion (hphase.symm.trans hallowed)
    | _ => cases hq

/-- A question that does not open or close a transaction keeps the committed tables and the
transaction. -/
theorem kept_answer (htally : q ≠ .tally)
    (hstay : ∀ q' ∈ Exchange.toStorage? ⟨q, answer⟩, q'.isTurn = false)
    (hanswer : Scene.answer flight.visit.collaborators q (flight.scene store) =
      some (answer, after)) :
    after.store.committed = store.committed ∧ (store.staged ≠ none → after.store.staged ≠ none) ∧
      ((∀ new, q ≠ .storage (.insertEvent new)) → after.store.ids = store.ids) := by
  cases hq : q.isStored with
  | false =>
    rw [(Scene.answer_aside hq htally rfl hanswer).1]
    exact ⟨rfl, id, fun _ => rfl⟩
  | true =>
    cases q with
    | storage q =>
      have hkept := Store.kept_answer? (hstay q rfl) (Scene.answer_storage hanswer).2
      exact ⟨hkept.committed, hkept.staged, fun hother => hkept.ids fun new heq =>
        hother new (congrArg _ heq)⟩
    | _ => cases hq

/-- A request opens its transaction. -/
theorem Tracked.hear_begin {next : Timed (Except String Unit) → Dialogue Surroundings _}
    {answer : Timed (Except String Unit)} (h : flight.Tracked store landed)
    (hrest : flight.rest = .ask (.storage .begin) next)
    (hanswer : Scene.answer flight.visit.collaborators (.storage .begin) (flight.scene store) =
      some (answer, after)) :
    (flight.hear ⟨.storage .begin, answer⟩ (next answer) store).Inside after.store := by
  obtain ⟨hwrites, hphase⟩ := (h.allows hrest).1
  have hunasked := not_insertEvent_of_outside h.lawful hphase
  have hshadowed : (next answer).Closing ∨
      (flight.hear ⟨.storage .begin, answer⟩ (next answer) store).Shadowed store.committed store.ids
        fun store' => after.store.Alike store' ∧ store'.failing = false := by
    have hfree := (Store.answer?_begin_eq_some (Scene.answer_storage hanswer).2).1
    rcases h.outside hphase hwrites with hclosing | hshadowed
    · rw [hrest] at hclosing
      cases hclosing.1
    · refine Shadowed.hear ?_ hrest nofun ?_ hanswer
      · refine (hshadowed store.committed store.ids (.refl _)).mono fun store' hstore' => ?_
        subst hstore'
        exact ⟨⟨rfl, hfree.symm, rfl⟩, rfl⟩
      · rintro ⟨records, hrecords⟩
        cases hrecords
  obtain ⟨delay, value⟩ := answer
  obtain ⟨hdelay, hstore⟩ := Scene.answer_storage hanswer
  obtain ⟨hfree, hvalue, hafter⟩ := Store.answer?_begin_eq_some hstore
  cases hdelay
  cases hvalue
  rw [hafter] at hshadowed ⊢
  refine ⟨nofun, ?_, fun _ => rfl, .inr hshadowed⟩
  rintro ⟨new, hmem⟩
  rcases List.mem_cons.1 hmem with hhead | hmem
  · cases hhead
  · exact absurd hmem (hunasked new)

/-- A request goes on within its transaction. -/
theorem Tracked.hear_stay (h : flight.Tracked store landed) (hrest : flight.rest = .ask q next)
    (hfresh : q.isStale store = false)
    (hanswer : Scene.answer flight.visit.collaborators q (flight.scene store) =
      some (answer, after))
    (hstay : ∀ q' ∈ Exchange.toStorage? ⟨q, answer⟩, q'.isTurn = false)
    (hphase : flight.past.phase = .inside) :
    (flight.hear ⟨q, answer⟩ (next answer) store).Inside after.store := by
  have hallowed := (h.allows hrest).1
  have htally : q ≠ .tally := by
    rintro rfl
    exact hallowed
  obtain ⟨hheld, hdrawn, hundrawn, hshadowed⟩ := h.inside hphase
  obtain ⟨hcommitted, hstaged, hids⟩ := kept_answer htally hstay hanswer
  have hflightIds : (flight.hear ⟨q, answer⟩ (next answer) store).ids = flight.ids := by
    rw [hear, Exchange.turn?_eq_none hstay, if_neg nofun]
  refine ⟨hstaged hheld, ?_, ?_, ?_⟩
  · rw [hcommitted, hflightIds]
    rintro ⟨new, hmem⟩
    by_cases hearlier : ∃ new, .storage (.insertEvent new) ∈ flight.past.questions
    · exact hdrawn hearlier
    · rcases List.mem_cons.1 hmem with rfl | hmem
      · rw [← hundrawn fun new hnew => hearlier ⟨new, hnew⟩]
        exact Std.ExtTreeMap.getElem?_eq_none_of_contains_eq_false hfresh
      · exact absurd ⟨new, hmem⟩ hearlier
  · rw [hflightIds]
    intro hnever
    rw [hids fun new hq => hnever new (hq ▸ List.mem_cons_self)]
    exact hundrawn fun new hmem => hnever new (List.mem_cons_of_mem _ hmem)
  · rcases hshadowed with ⟨hcreates, records, cause, hcause⟩ | hclosing | hshadowed
    · exact .inl ⟨hcreates, records, cause, hcause.cons⟩
    · rw [hrest] at hclosing
      exact .inr (.inl (hclosing.2 answer))
    · by_cases hfailing : (∃ records, q = .storage (.insertAttendance records)) ∧ store.failing = true
      · obtain ⟨⟨records, rfl⟩, hfailing⟩ := hfailing
        obtain ⟨staged, hopen⟩ := Option.ne_none_iff_exists'.1 hheld
        obtain ⟨cause, hcause⟩ := Store.answer?_insertAttendance_error hopen (.inl hfailing)
        have hvalue := (Scene.answer_storage hanswer).2.symm.trans hcause
        exact .inl ⟨hallowed.2, records, cause,
          Talk.stored_head (Prod.mk.inj (Option.some.inj hvalue)).1⟩
      · rw [hcommitted, hflightIds]
        refine .inr (hshadowed.hear hrest htally (fun hattendance => ?_) hanswer)
        exact Bool.eq_false_of_not_eq_true fun hfails => hfailing ⟨hattendance, hfails⟩

/-- While a request has the open transaction, it would have come as far alone. -/
theorem Tracked.hear_inside (h : flight.Tracked store landed) (hrest : flight.rest = .ask q next)
    (hfresh : q.isStale store = false)
    (hanswer : Scene.answer flight.visit.collaborators q (flight.scene store) =
      some (answer, after))
    (hphase : Talk.phase (⟨q, answer⟩ :: flight.past) = .inside) :
    (flight.hear ⟨q, answer⟩ (next answer) store).Inside after.store := by
  rcases Talk.begun_or_stays_of_inside hphase with hbegin | hstay
  · cases hbegin
    exact h.hear_begin hrest hanswer
  · refine h.hear_stay hrest hfresh hanswer hstay ?_
    rw [← Talk.phase_cons hstay]
    exact hphase

end Steps

end Flight

end TeamCalendar
