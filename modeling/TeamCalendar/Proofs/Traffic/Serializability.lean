import TeamCalendar.Proofs.Traffic.Tracking

/-!
# Traffic as if requests came one after another

However the steps of requests come between one another, the committed tables are those of the
requests that have committed, one after another, each of them alone.  And whoever lists the
attendance of an event gets the records of everyone on its roster.

* `Flight.Tracked.hear` is about the request that takes a step, and `Flight.Tracked.land` about the
  request that commits.
* `Traffic.Orderly` is kept by all that happens in traffic.
* `Traffic.Reachable.serializable` and `Traffic.Reachable.whole` are what comes of it.
-/

namespace TeamCalendar

/-- Requests one after another leave no choice of the tables. -/
theorem Serial.unique {landed : List Landing} {tables tables' : Tables} (h : Serial landed tables)
    (h' : Serial landed tables') : tables = tables' := by
  induction h generalizing tables' with
  | start =>
    cases h'
    rfl
  | land h hfresh hcarried ih =>
    cases h' with
    | land h' hfresh' hcarried' =>
      cases ih h'
      cases hcarried.symm.trans hcarried'
      rfl

/-- A request fails to commit only if the storage says so. -/
theorem Talk.uncommitted_or_stays_of_failing {past : Talk} {exchange : Exchange}
    (h : Talk.phase (exchange :: past) = .failing) :
    (∃ delay cause, exchange = ⟨.storage .commit, ⟨delay, .error cause⟩⟩) ∨
      past.phase = .failing := by
  obtain ⟨question, answer⟩ := exchange
  cases question with
  | storage q =>
    cases q with
    | begin =>
      obtain ⟨delay, value⟩ := answer
      cases value with
      | ok => cases h
      | error cause => cases h
    | commit =>
      obtain ⟨delay, value⟩ := answer
      cases value with
      | ok => cases h
      | error cause => exact .inl ⟨delay, cause, rfl⟩
    | rollback => cases h
    | _ => exact .inr h
  | _ => exact .inr h

namespace Talk

variable {talk : Talk}

theorem mem_questions_of_mem_dealings {q : Storage.Question} {answer : Storage.Answer q}
    (h : ⟨q, answer⟩ ∈ talk.dealings) : .storage q ∈ talk.questions := by
  obtain ⟨exchange, hmem, hdealing⟩ := List.mem_filterMap.1 h
  refine List.mem_map.2 ⟨exchange, hmem, ?_⟩
  obtain ⟨question, answer⟩ := exchange
  cases question with
  | storage q' =>
    cases hdealing
    rfl
  | _ => cases hdealing

namespace Wrote

variable {new : NewEvent} {event : Event} {records : List AttendanceRecord}

theorem insertEvent_mem (h : talk.Wrote new event records) :
    .storage (.insertEvent new) ∈ talk.questions := by
  have hmem : (⟨.insertEvent new, .ok event⟩ : Σ q, Storage.Answer q) ∈ talk.dealings := by
    rw [h]
    exact List.mem_append_right _ List.mem_cons_self
  exact mem_questions_of_mem_dealings hmem

theorem not_stored_error (h : talk.Wrote new event records) (records' : List AttendanceRecord)
    (cause : String) : ¬ talk.Stored (.insertAttendance records') (.error cause) := by
  intro hstored
  have hmem := hstored.mem_dealings
  rw [h] at hmem
  rcases List.mem_append.1 hmem with hrecords | hevent
  · split at hrecords
    · cases hrecords
    · cases List.mem_singleton.1 hrecords
  · rcases List.mem_cons.1 hevent with hhead | hbegin
    · cases hhead
    · cases List.mem_singleton.1 hbegin

end Wrote

end Talk

namespace Visit

variable {visit : Visit} {talk : Talk} {reply : Reply}

/-- A request that creates an event has written it when it may commit. -/
theorem Earned.insertEvent_mem (h : visit.Earned talk reply) {new : NewEvent}
    (hoperation : visit.operation = .create new) :
    ∃ new', .storage (.insertEvent new') ∈ talk.questions := by
  cases h with
  | create _ hcreates =>
    obtain ⟨-, -, -, -, hwritten⟩ := hcreates
    exact ⟨_, hwritten.insertEvent_mem⟩
  | update hoperation' => cases hoperation.symm.trans hoperation'
  | respond hoperation' => cases hoperation.symm.trans hoperation'

/-- A request that may commit has not been told that attendance cannot be written. -/
theorem Earned.not_spoiled {flight : Flight} (h : flight.visit.Earned flight.past reply) :
    ¬ flight.Spoiled := by
  rintro ⟨⟨new, hoperation⟩, records, cause, hcause⟩
  cases h with
  | create _ hcreates =>
    obtain ⟨-, -, -, -, hwritten⟩ := hcreates
    exact hwritten.not_stored_error _ _ hcause
  | update hoperation' => cases hoperation.symm.trans hoperation'
  | respond hoperation' => cases hoperation.symm.trans hoperation'

end Visit

namespace Flight

variable {flight : Flight} {store : Store} {landed landed' : List Landing}
  {q : Surroundings.Question}
  {next : Surroundings.Answer q → Dialogue Surroundings (Except Refusal Reply)}
  {answer : Surroundings.Answer q} {after : Scene}

/-- The open transaction of a request can be committed. -/
theorem Tracked.commit_ok {next : Timed (Except String Unit) → Dialogue Surroundings _}
    {answer : Timed (Except String Unit)} (h : flight.Tracked store landed)
    (hrest : flight.rest = .ask (.storage .commit) next)
    (hanswer : Scene.answer flight.visit.collaborators (.storage .commit) (flight.scene store) =
      some (answer, after)) : answer.value = .ok () ∧ after.store.staged = none :=
  Store.answer?_commit_eq_some (h.inside (h.allows hrest).1.1).held (Scene.answer_storage hanswer).2

/-- A request that takes a step is still kept track of. -/
theorem Tracked.hear (h : flight.Tracked store landed) (hserial : Serial landed store.committed)
    (hrest : flight.rest = .ask q next) (hfresh : q.isStale store = false)
    (hanswer : Scene.answer flight.visit.collaborators q (flight.scene store) =
      some (answer, after))
    (hlasts : store.committed.Lasts after.store.committed)
    (hlanded : ∀ landing ∈ landed, landing ∈ landed') :
    (flight.hear ⟨q, answer⟩ (next answer) store).Tracked after.store landed' where
  lawful := ⟨(h.allows hrest).1, h.lawful⟩
  keeps := (h.allows hrest).2 answer
  start := nofun
  working hfailing := by
    rcases Talk.uncommitted_or_stays_of_failing hfailing with ⟨delay, cause, hhead⟩ | hpast
    · cases hhead
      cases (h.commit_ok hrest hanswer).1
    · exact h.working hpast
  outside hphase hwrites := h.hear_outside hrest hanswer hphase hwrites
  inside hphase := h.hear_inside hrest hfresh hanswer hphase
  found := by
    intro id event hfound
    suffices hstored : ∃ event', store.committed.events[id]? = some event' by
      obtain ⟨event', hevent'⟩ := hstored
      obtain ⟨event'', hevent'', -⟩ := hlasts id event' hevent'
      exact ⟨event'', hevent''⟩
    rcases hfound.head_or_tail with ⟨delay, hhead⟩ | hpast
    · cases hhead
      obtain ⟨-, hstore⟩ := Scene.answer_storage hanswer
      exact ⟨event, Except.ok.inj (Prod.mk.inj (Option.some.inj hstore)).1⟩
    · exact h.found hpast
  listed := by
    intro id listing hlisted
    rcases hlisted.head_or_tail with ⟨delay, hhead⟩ | hpast
    · cases hhead
      obtain ⟨-, -, event, hfound⟩ := (h.allows hrest).1
      obtain ⟨event', hevent'⟩ := h.found hfound
      obtain ⟨landing, hmem, roster, hcreates, hrecords⟩ := hserial.listing hevent'
      obtain ⟨-, hstore⟩ := Scene.answer_storage hanswer
      exact ⟨_, (Prod.mk.inj (Option.some.inj hstore)).1.symm, landing, hlanded _ hmem, roster,
        hcreates, hrecords⟩
    · obtain ⟨records, hvalue, landing, hmem, hwhole⟩ := h.listed hpast
      exact ⟨records, hvalue, landing, hlanded _ hmem, hwhole⟩

/-- A request that commits leaves what it would have left alone. -/
theorem Tracked.exists_carryOut {next : Timed (Except String Unit) → Dialogue Surroundings _}
    {answer : Timed (Except String Unit)} (h : flight.Tracked store landed)
    (hrest : flight.rest = .ask (.storage .commit) next)
    (hanswer : Scene.answer flight.visit.collaborators (.storage .commit) (flight.scene store) =
      some (answer, after)) :
    ∃ reply s', (Scene.alone store.committed flight.landing.ids).carryOut flight.landing.visit =
        some (.ok reply, s') ∧ s'.store.committed = after.store.committed := by
  obtain ⟨hphase, reply, hearned⟩ := (h.allows hrest).1
  rcases (h.inside hphase).shadowed with hspoiled | hclosing | hshadowed
  · exact absurd hspoiled hearned.not_spoiled
  · rw [hrest] at hclosing
    cases hclosing.1
  · obtain ⟨talk, rest, s, hproceeds, halike, hasked, hstore, -⟩ := hshadowed
    rw [hrest] at halike
    obtain ⟨next', rfl, -⟩ := halike.of_stored rfl
    have hscene : s.asked = (flight.scene store).asked := (hproceeds.asked rfl).trans hasked
    have hnever : ¬ ∃ records, Surroundings.Question.storage .commit =
        .storage (.insertAttendance records) := by
      rintro ⟨records, hrecords⟩
      cases hrecords
    obtain ⟨after', hanswer', hafter, -⟩ := Scene.answer_alike (q := .storage .commit)
      Surroundings.Question.noConfusion hscene hstore (fun h => absurd h hnever) hanswer
    have hcommitted := hproceeds.ask hanswer'
    have hsettled : Talk.phase (⟨.storage .commit, answer⟩ :: talk) = .settled := by
      obtain ⟨delay, value⟩ := answer
      cases (h.commit_ok hrest hanswer).1
      rfl
    obtain ⟨reply, s', hrun, hkept⟩ :=
      Visit.exists_reply_of_settled hcommitted.keeps hsettled after'
    refine ⟨reply, s', hcommitted.carryOut_eq.trans hrun, ?_⟩
    rw [hkept, hafter.committed]

/-- A request that commits comes after all that have committed before. -/
theorem Tracked.land {next : Timed (Except String Unit) → Dialogue Surroundings _}
    {answer : Timed (Except String Unit)} (h : flight.Tracked store landed)
    (hserial : Serial landed store.committed)
    (hrest : flight.rest = .ask (.storage .commit) next)
    (hanswer : Scene.answer flight.visit.collaborators (.storage .commit) (flight.scene store) =
      some (answer, after)) :
    Serial (flight.landing :: landed) after.store.committed ∧
      store.committed.Lasts after.store.committed := by
  obtain ⟨hphase, reply, hearned⟩ := (h.allows hrest).1
  have hfresh : ∀ new, flight.landing.visit.operation = .create new →
      store.committed.events[flight.landing.eventId]? = none :=
    fun new hoperation => (h.inside hphase).fresh (hearned.insertEvent_mem hoperation)
  obtain ⟨reply', s', hcarried, hcommitted⟩ := h.exists_carryOut hrest hanswer
  rw [← hcommitted]
  exact ⟨hserial.land hfresh hcarried, hserial.lasts hfresh hcarried⟩

/-- A step of a request keeps the committed tables, or the request commits. -/
theorem Tracked.serial_hear (h : flight.Tracked store landed)
    (hserial : Serial landed store.committed) (hrest : flight.rest = .ask q next)
    (hanswer : Scene.answer flight.visit.collaborators q (flight.scene store) =
      some (answer, after)) :
    Serial (if Exchange.turn? ⟨q, answer⟩ = some .settled then flight.landing :: landed else landed)
        after.store.committed ∧
      store.committed.Lasts after.store.committed := by
  have hkept (hcommitted : after.store.committed = store.committed)
      (hturn : Exchange.turn? ⟨q, answer⟩ ≠ some .settled) :
      Serial (if Exchange.turn? ⟨q, answer⟩ = some .settled then flight.landing :: landed
        else landed) after.store.committed ∧
        store.committed.Lasts after.store.committed := by
    rw [if_neg hturn, hcommitted]
    exact ⟨hserial, .refl _⟩
  by_cases hstay : ∀ q' ∈ Exchange.toStorage? ⟨q, answer⟩, q'.isTurn = false
  · have htally : q ≠ .tally := by
      rintro rfl
      exact (h.allows hrest).1
    refine hkept (kept_answer htally hstay hanswer).1 ?_
    rw [Exchange.turn?_eq_none hstay]
    nofun
  · cases q with
    | storage q =>
      obtain ⟨-, hstore⟩ := Scene.answer_storage hanswer
      cases q with
      | begin =>
        obtain ⟨delay, value⟩ := answer
        obtain ⟨-, hvalue, hafter⟩ := Store.answer?_begin_eq_some hstore
        cases hvalue
        refine hkept ?_ nofun
        rw [hafter]
        rfl
      | commit =>
        obtain ⟨delay, value⟩ := answer
        cases (h.commit_ok hrest hanswer).1
        exact h.land hserial hrest hanswer
      | rollback =>
        refine hkept ?_ nofun
        rw [← (Prod.mk.inj (Option.some.inj hstore)).2]
        rfl
      | _ => exact absurd (fun _ hq => by cases hq; rfl) hstay
    | _ => exact absurd (fun _ hq => by cases hq) hstay

end Flight

namespace Traffic

/-- What is kept by all that happens in traffic: the committed tables are those of requests one
after another, every request is kept track of, and only one of them is in a transaction. -/
structure Orderly (t : Traffic) : Prop where
  serial : Serial t.landed t.store.committed
  tracked : ∀ {index : Nat} {flight : Flight}, t.flights index = some flight →
    flight.Tracked t.store t.landed
  single : ∀ {first second : Nat} {flight flight' : Flight}, t.flights first = some flight →
    t.flights second = some flight' → flight.past.phase = .inside →
    flight'.past.phase = .inside → first = second

variable {t t' : Traffic}

theorem eq_of_put_eq_some {index other : Nat} {flight? : Option Flight} {flight : Flight}
    (h : t.put index flight? other = some flight) :
    (other = index ∧ flight? = some flight) ∨ (other ≠ index ∧ t.flights other = some flight) := by
  by_cases hother : other = index
  · subst hother
    rw [put, Function.update_self] at h
    exact .inl ⟨rfl, h⟩
  · rw [put, Function.update_of_ne hother] at h
    exact .inr ⟨hother, h⟩

/-- What a step of a request is. -/
theorem advance?_eq_some {index : Nat} (h : t.advance? index = some t') :
    ∃ (flight : Flight) (q : Surroundings.Question)
      (next : Surroundings.Answer q → Dialogue Surroundings (Except Refusal Reply))
      (answer : Surroundings.Answer q) (after : Scene),
      t.flights index = some flight ∧ flight.rest = .ask q next ∧ q.isStale t.store = false ∧
        Scene.answer flight.visit.collaborators q (flight.scene t.store) = some (answer, after) ∧
        t' = t.hear index flight ⟨q, answer⟩ (next answer) after.store := by
  obtain ⟨flight, hflight, hadvance⟩ := Option.bind_eq_some_iff.1 h
  split at hadvance
  · cases hadvance
  · next q next hrest =>
    split at hadvance
    · cases hadvance
    · next hfresh =>
      obtain ⟨⟨answer, after⟩, hanswer, rfl⟩ := Option.map_eq_some_iff.1 hadvance
      exact ⟨flight, q, next, answer, after, hflight, hrest, Bool.eq_false_of_not_eq_true hfresh,
        hanswer, rfl⟩

namespace Orderly

theorem start {store : Store} (hempty : store.committed = {}) : Orderly { store } where
  serial := by
    rw [hempty]
    exact .start
  tracked := nofun
  single := nofun

theorem arrive (h : t.Orderly) (index : Nat) (visit : Visit) :
    (t.arrive index visit).Orderly where
  serial := h.serial
  tracked hflight := by
    rcases eq_of_put_eq_some hflight with ⟨-, hhere⟩ | ⟨-, hthere⟩
    · cases hhere
      exact Flight.tracked_arriving visit t.store t.landed
    · exact h.tracked hthere
  single hfirst hsecond hinside hinside' := by
    rcases eq_of_put_eq_some hfirst with ⟨-, hhere⟩ | ⟨-, hthere⟩
    · cases hhere
      cases hinside
    · rcases eq_of_put_eq_some hsecond with ⟨-, hhere'⟩ | ⟨-, hthere'⟩
      · cases hhere'
        cases hinside'
      · exact h.single hthere hthere' hinside hinside'

section Steps

variable {index other : Nat} {flight flight' : Flight} {q : Surroundings.Question}
  {next : Surroundings.Answer q → Dialogue Surroundings (Except Refusal Reply)}
  {answer : Surroundings.Answer q} {after : Scene}

/-- While one request is in a transaction, the steps of another one leave the store alone. -/
theorem store_eq_of_inside (h : t.Orderly) (hflight : t.flights index = some flight)
    (hrest : flight.rest = .ask q next)
    (hanswer : Scene.answer flight.visit.collaborators q (flight.scene t.store) =
      some (answer, after)) (hother : t.flights other = some flight') (hne : other ≠ index)
    (hinside : flight'.past.phase = .inside) : after.store = t.store :=
  (h.tracked hflight).store_eq hrest ((h.tracked hother).inside hinside).held
    (fun hphase => hne (h.single hother hflight hinside hphase)) hanswer

/-- While one request is in a transaction, another one does not come to be in one. -/
theorem not_inside_of_inside (h : t.Orderly) (hflight : t.flights index = some flight)
    (hanswer : Scene.answer flight.visit.collaborators q (flight.scene t.store) =
      some (answer, after)) (hother : t.flights other = some flight') (hne : other ≠ index)
    (hinside : flight'.past.phase = .inside) :
    Talk.phase (⟨q, answer⟩ :: flight.past) ≠ .inside := by
  intro hphase
  rcases Talk.begun_or_stays_of_inside hphase with hbegin | hstay
  · cases hbegin
    have hfree := (Store.answer?_begin_eq_some (Scene.answer_storage hanswer).2).1
    exact ((h.tracked hother).inside hinside).held hfree
  · rw [Talk.phase_cons hstay] at hphase
    exact hne (h.single hother hflight hinside hphase)

end Steps

theorem advance (h : t.Orderly) {index : Nat} (hstep : t.advance? index = some t') :
    t'.Orderly := by
  obtain ⟨flight, q, next, answer, after, hflight, hrest, hfresh, hanswer, rfl⟩ :=
    advance?_eq_some hstep
  have htracked := h.tracked hflight
  obtain ⟨hserial, hlasts⟩ := htracked.serial_hear h.serial hrest hanswer
  have hlanded : ∀ landing ∈ t.landed,
      landing ∈ (t.hear index flight ⟨q, answer⟩ (next answer) after.store).landed := by
    intro landing hmem
    rw [Traffic.hear]
    split
    · exact List.mem_cons_of_mem _ hmem
    · exact hmem
  refine ⟨hserial, ?_, ?_⟩
  · intro other flight' hflight'
    rcases eq_of_put_eq_some hflight' with ⟨-, hhere⟩ | ⟨hne, hthere⟩
    · cases hhere
      exact htracked.hear h.serial hrest hfresh hanswer hlasts hlanded
    · refine (h.tracked hthere).overhear hlasts hlanded fun hinside => ?_
      have hstore := h.store_eq_of_inside hflight hrest hanswer hthere hne hinside
      change Store.Alike _ after.store
      rw [hstore]
      exact .refl _
  · intro first second flight₁ flight₂ hfirst hsecond hinside₁ hinside₂
    rcases eq_of_put_eq_some hfirst with ⟨rfl, hhere₁⟩ | ⟨hne₁, hthere₁⟩
    · rcases eq_of_put_eq_some hsecond with ⟨rfl, -⟩ | ⟨hne₂, hthere₂⟩
      · rfl
      · cases hhere₁
        exact absurd hinside₁ (h.not_inside_of_inside hflight hanswer hthere₂ hne₂ hinside₂)
    · rcases eq_of_put_eq_some hsecond with ⟨rfl, hhere₂⟩ | ⟨-, hthere₂⟩
      · cases hhere₂
        exact absurd hinside₂ (h.not_inside_of_inside hflight hanswer hthere₁ hne₁ hinside₁)
      · exact h.single hthere₁ hthere₂ hinside₁ hinside₂

theorem abandon (h : t.Orderly) {index : Nat} {flight : Flight}
    (hflight : t.flights index = some flight) : (t.abandon index flight).Orderly := by
  have hcommitted : (t.abandon index flight).store.committed = t.store.committed := by
    rw [Traffic.abandon]
    dsimp only
    split
    · rfl
    · rfl
  refine ⟨?_, ?_, ?_⟩
  · rw [hcommitted]
    exact h.serial
  · intro other flight' hflight'
    rcases eq_of_put_eq_some hflight' with ⟨-, hhere⟩ | ⟨hne, hthere⟩
    · cases hhere
    · refine (h.tracked hthere).overhear ?_ (fun _ hmem => hmem) fun hinside => ?_
      · rw [hcommitted]
        exact .refl _
      · have houtside : flight.past.phase ≠ .inside := fun hphase =>
          hne (h.single hthere hflight hinside hphase)
        rw [Traffic.abandon, if_neg houtside]
        exact .refl _
  · intro first second flight₁ flight₂ hfirst hsecond hinside₁ hinside₂
    rcases eq_of_put_eq_some hfirst with ⟨-, hhere⟩ | ⟨-, hthere₁⟩
    · cases hhere
    · rcases eq_of_put_eq_some hsecond with ⟨-, hhere⟩ | ⟨-, hthere₂⟩
      · cases hhere
      · exact h.single hthere₁ hthere₂ hinside₁ hinside₂

theorem switch (h : t.Orderly) (failing : Bool) :
    (t.switch failing).Orderly where
  serial := h.serial
  tracked hflight :=
    (h.tracked hflight).overhear (.refl _) (fun _ hmem => hmem) fun _ => ⟨rfl, rfl, rfl⟩
  single := h.single

end Orderly

theorem Reachable.orderly (h : t.Reachable) : t.Orderly := by
  induction h with
  | start hempty hfree => exact .start hempty
  | arrive h visit hfree ih => exact ih.arrive _ visit
  | advance h hstep ih => exact ih.advance hstep
  | abandon h hflight ih => exact ih.abandon hflight
  | switch h failing ih => exact ih.switch failing

/-- Whatever the order of the steps, the committed tables are those of the requests that have
committed, one after another.  A request lists the attendance of an event only if it has found the
event before, and then gets one record for each user of the roster that the event was created with.
-/
theorem Reachable.serializable (h : t.Reachable) :
    (∀ tables, Serial t.landed tables ↔ tables = t.store.committed) ∧
      ∀ {index : Nat} {flight : Flight} {later earlier : Talk} {id : EventId}
        {answer : Timed (Storage.Answer (.listAttendance id))},
        t.flights index = some flight →
        flight.past = later ++ ⟨.storage (.listAttendance id), answer⟩ :: earlier →
        flight.visit.operation = .read id ∧
          (∃ event, earlier.Stored (.findEvent id) (.ok (some event))) ∧
          ∃ records, answer.value = .ok records ∧ Flight.Whole t.landed id records := by
  have horderly := h.orderly
  refine ⟨fun tables => ⟨fun hserial => hserial.unique horderly.serial, ?_⟩, ?_⟩
  · rintro rfl
    exact horderly.serial
  · intro index flight later earlier id answer hflight hpast
    have htracked := horderly.tracked hflight
    have hlawful := htracked.lawful
    rw [hpast] at hlawful
    obtain ⟨hoperation, -, hfound⟩ := hlawful.of_append.1
    refine ⟨hoperation, hfound, htracked.listed ⟨answer.delay, ?_⟩⟩
    rw [hpast]
    exact List.mem_append_right _ List.mem_cons_self

/-- The traffic after several requests have taken steps, where they can. -/
def advances (t : Traffic) (schedule : List Nat) : Traffic :=
  schedule.foldl (fun t index => (t.advance? index).getD t) t

theorem Reachable.advances (h : t.Reachable) (schedule : List Nat) :
    (t.advances schedule).Reachable := by
  induction schedule generalizing t with
  | nil => exact h
  | cons index schedule ih =>
    have hnext : ((t.advance? index).getD t).Reachable := by
      cases hstep : t.advance? index with
      | none => exact h
      | some t' => exact h.advance hstep
    exact ih hnext

end Traffic

namespace Sample

/-- The coach creates two events, and the player reads the first one of them. -/
def crowd : Traffic :=
  ((Traffic.mk {} (fun _ => none) []).arrive 0 (visit coach (.create training))
    |>.arrive 1 (visit coach (.create training))).arrive 2 (visit player (.read trainingId))

/-- The player looks for the event and for its attendance while the other event is being written. -/
def rush : Traffic :=
  crowd.advances ([0, 1, 0, 1, 0, 1, 0, 0, 0, 0] ++ [1, 1, 2, 2, 1, 2, 1, 1, 1])

end Sample

/-- Both events are committed, and the player lists the whole attendance of the first one. -/
theorem Traffic.serializable_sample :
    Sample.rush.Reachable ∧ Sample.rush.landed.length = 2 ∧
      Serial Sample.rush.landed Sample.rush.store.committed ∧
      ∃ flight records, Sample.rush.flights 2 = some flight ∧
        flight.past.Stored (.listAttendance Sample.trainingId) (.ok records) ∧
        records.length = 2 ∧ Flight.Whole Sample.rush.landed Sample.trainingId records := by
  have hreachable : Sample.rush.Reachable :=
    .advances (.arrive (.arrive (.arrive (.start rfl rfl) _ rfl) _ rfl) _ rfl) _
  obtain ⟨hserial, hlisted⟩ := Reachable.serializable hreachable
  obtain ⟨-, -, records, hvalue, hwhole⟩ := @hlisted 2 _ [] _ Sample.trainingId _ rfl rfl
  refine ⟨hreachable, rfl, (hserial _).2 rfl, _, records, rfl, ?_, ?_, hwhole⟩
  · exact Talk.stored_head hvalue
  · cases hvalue
    rfl

end TeamCalendar
