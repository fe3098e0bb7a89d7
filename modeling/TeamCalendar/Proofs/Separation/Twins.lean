import TeamCalendar.Proofs.Scene.Closing
import TeamCalendar.Proofs.Scene.Transaction
import TeamCalendar.Proofs.Separation.Tables

/-!
# One request in two scenes

A request is carried out in two scenes that differ in their committed tables only.

* `Scene.over` is a scene with other committed tables.
* `Scene.Twins` says that a service comes to the same end in both scenes, and that afterwards they
  still differ in their committed tables only.  There is a rule for each way to put services
  together.
* `Store.KeepsTo` says what a request has done that keeps to the teams that are seen.
* `Scene.Twins.inTransaction` is the rule for requests that write.
-/

namespace TeamCalendar

namespace Store

/-- A request has been carried out in two stores.  No transaction is open, at most one identifier
has been drawn, and the same has been done to both tables. -/
structure KeepsTo (seen : TeamId → Prop) (store : Store) (tables : Tables) (store' : Store)
    (tables' : Tables) : Prop where
  free : store'.staged = none
  ids : store'.ids = store.ids ∨ store'.ids = (store.ids.draw : EventId × IdSource).2
  moved : Tables.Moved seen store.committed tables store'.committed tables'

/-- The body of a transaction has been carried out in two stores.  If it has succeeded, the same
rows have been staged in both, which may be seen. -/
structure Prepares (seen : TeamId → Prop) (store : Store) (tables : Tables) (succeeded : Bool)
    (store' : Store) (tables' : Tables) : Prop where
  committed : store'.committed = store.committed
  other : tables' = tables
  ids : store'.ids = store.ids ∨ store'.ids = (store.ids.draw : EventId × IdSource).2
  staged : succeeded = true → ∃ (staged : Tables) (id : EventId),
    store'.staged = some staged ∧ Tables.Visible seen store.committed staged id

theorem KeepsTo.refl {store : Store} (seen : TeamId → Prop) (tables : Tables)
    (hfree : store.staged = none) : store.KeepsTo seen tables store tables :=
  ⟨hfree, .inl rfl, .still⟩

end Store

/-- The scene with other committed tables.  How often attendance was to be written may differ too.
-/
def Scene.over (s : Scene) (tables : Tables) (batches : Nat) : Scene :=
  { s with store := { s.store with committed := tables, batches } }

namespace Scene

variable {α β : Type} {c : Collaborators} {s : Scene} {tables : Tables} {batches : Nat}

/-- What is not asked of the storage is answered alike. -/
theorem answer_over {q : Surroundings.Question} (hq : q.isStored = false) (c : Collaborators)
    (s : Scene) (tables : Tables) (batches : Nat) :
    ∃ answer s', Scene.answer c q s = some (answer, s') ∧
      Scene.answer c q (s.over tables batches) = some (answer, s'.over tables batches) ∧
      s'.store = s.store := by
  cases q with
  | storage q => cases hq
  | directory q => exact ⟨_, _, rfl, rfl, rfl⟩
  | now => exact ⟨_, _, rfl, rfl, rfl⟩
  | count occurrence => exact ⟨_, _, rfl, rfl, rfl⟩
  | tally => exact ⟨_, _, rfl, rfl, rfl⟩
  | publish change => exact ⟨_, _, rfl, rfl, rfl⟩

/-- A dialogue that asks nothing of the storage goes on alike. -/
theorem interpret_over {dialogue : Dialogue Surroundings α} (h : dialogue.Closing) :
    ∃ value s', (dialogue.interpret (Scene.answer c)).run s = some (value, s') ∧
      (dialogue.interpret (Scene.answer c)).run (s.over tables batches) =
        some (value, s'.over tables batches) ∧ s'.store = s.store := by
  induction dialogue generalizing s with
  | done value => exact ⟨value, s, rfl, rfl, rfl⟩
  | ask q next ih =>
    obtain ⟨answer, after, hanswer, hanswer', hafter⟩ := answer_over h.1 c s tables batches
    obtain ⟨value, s', hrun, hrun', hstore⟩ := ih answer (h.2 answer) (s := after)
    refine ⟨value, s', ?_, ?_, hstore.trans hafter⟩
    · change Option.bind _ _ = _
      rw [hanswer]
      exact hrun
    · change Option.bind _ _ = _
      rw [hanswer']
      exact hrun'

theorem consulted_over (s : Scene) (tables : Tables) (batches : Nat) (q : Directory.Question)
    (verdict : Except Refusal α) :
    (s.over tables batches).consulted q verdict = (s.consulted q verdict).over tables batches := by
  cases verdict with
  | ok value => rfl
  | error refusal => rfl

theorem gated_over (s : Scene) (tables : Tables) (batches : Nat) (settings : RuntimeSettings)
    (requester : UserId) (teamId : TeamId) :
    (s.over tables batches).gated c settings requester teamId =
      (s.gated c settings requester teamId).over tables batches :=
  consulted_over _ _ _ _ _

/-- A service comes to the same end in a scene and over other tables, and the scenes still differ in
their tables only. -/
def Twins (c : Collaborators) (service : Service α) (s : Scene) (tables : Tables) (batches : Nat)
    (ends : Except Refusal α → Scene → Tables → Prop) : Prop :=
  ∃ result s' tables' batches', run c service s = some (result, s') ∧
    run c service (s.over tables batches) = some (result, s'.over tables' batches') ∧
    ends result s' tables'

namespace Twins

variable {service first : Service α} {next : α → Service β} {s' : Scene} {tables' : Tables}
  {batches' : Nat} {ends ends' : Except Refusal α → Scene → Tables → Prop}
  {bothEnd : Except Refusal β → Scene → Tables → Prop}

theorem mono (h : Twins c service s tables batches ends)
    (hends : ∀ result s' tables', ends result s' tables' → ends' result s' tables') :
    Twins c service s tables batches ends' := by
  obtain ⟨result, s', tables', batches', hrun, hrun', hresult⟩ := h
  exact ⟨result, s', tables', batches', hrun, hrun', hends _ _ _ hresult⟩

/-- The end of a service in both scenes. -/
theorem of_run {result : Except Refusal α} (h : run c service s = some (result, s'))
    (h' : run c service (s.over tables batches) = some (result, s'.over tables' batches'))
    (hends : ends result s' tables') : Twins c service s tables batches ends :=
  ⟨result, s', tables', batches', h, h', hends⟩

/-- What a service does in both scenes, another one does in two other scenes. -/
theorem of_run_eq (h : run c first s = run c service s')
    (h' : run c first (s.over tables batches) = run c service (s'.over tables' batches'))
    (hservice : Twins c service s' tables' batches' ends) :
    Twins c first s tables batches ends := by
  obtain ⟨result, s'', tables'', batches'', hrun, hrun', hresult⟩ := hservice
  exact ⟨result, s'', tables'', batches'', h.trans hrun, h'.trans hrun', hresult⟩

theorem throw {refusal : Refusal} (h : ends (.error refusal) s tables) :
    Twins c (throw refusal : Service α) s tables batches ends :=
  ⟨_, s, tables, batches, rfl, rfl, h⟩

theorem pure {value : α} (h : ends (.ok value) s tables) :
    Twins c (pure value) s tables batches ends :=
  ⟨_, s, tables, batches, rfl, rfl, h⟩

theorem bind
    (h : Twins c first s tables batches fun result s' tables' =>
      match result with
      | .ok value => ∀ batches', Twins c (next value) s' tables' batches' bothEnd
      | .error refusal => bothEnd (.error refusal) s' tables') :
    Twins c (first >>= next) s tables batches bothEnd := by
  obtain ⟨result, s', tables', batches', hrun, hrun', hresult⟩ := h
  cases result with
  | ok value => exact of_run_eq (run_bind_ok hrun) (run_bind_ok hrun') (hresult batches')
  | error refusal => exact ⟨_, _, _, _, run_bind_error hrun, run_bind_error hrun', hresult⟩

theorem map {f : α → β}
    (h : Twins c first s tables batches fun result s' tables' =>
      bothEnd (result.map f) s' tables') : Twins c (f <$> first) s tables batches bothEnd := by
  obtain ⟨result, s', tables', batches', hrun, hrun', hresult⟩ := h
  refine ⟨result.map f, s', tables', batches', ?_, ?_, hresult⟩
  · rw [run_map, hrun]
    rfl
  · rw [run_map, hrun']
    rfl

theorem of_closing (h : service.Closing)
    (hends : ∀ result s', s'.store = s.store → ends result s' tables) :
    Twins c service s tables batches ends := by
  obtain ⟨result, s', hrun, hrun', hstore⟩ := interpret_over (c := c) (s := s) h
  exact ⟨result, s', tables, batches, hrun, hrun', hends _ _ hstore⟩

/-- What follows a service without a question to the storage does not change how the stores end. -/
theorem bind_closing {ends : Store → Tables → Prop}
    (h : Twins c first s tables batches fun _ s' tables' => ends s'.store tables')
    (hnext : ∀ value, (next value).Closing) :
    Twins c (first >>= next) s tables batches fun _ s' tables' => ends s'.store tables' := by
  refine .bind (h.mono fun result s' tables' hends => ?_)
  cases result with
  | error refusal => exact hends
  | ok value =>
    intro batches'
    refine .of_closing (hnext value) fun _ s'' hstore => ?_
    rw [hstore]
    exact hends

/-- An authorization comes out alike. -/
theorem authorize {settings : RuntimeSettings} {requester : UserId} {teamId : TeamId}
    {required : List Role} {ends : Except Refusal Role → Scene → Tables → Prop}
    (hends : ∀ s', s'.store = s.store →
      ends (c.gate settings requester teamId required) s' tables) :
    Twins c (Service.authorize settings requester teamId required) s tables batches ends := by
  have hother : run c (Service.authorize settings requester teamId required)
      (s.over tables batches) = some (c.gate settings requester teamId required,
        (s.over tables batches).gated c settings requester teamId) := run_authorize
  rw [gated_over] at hother
  exact of_run run_authorize hother (hends _ store_gated)

/-- A question to the storage that is answered alike. -/
theorem storage {q : Storage.Question} {value : Storage.Answer q} {store : Store}
    {ends : Except Refusal (Timed (Storage.Answer q)) → Scene → Tables → Prop}
    (h : Store.answer? q s.store = some (value, store))
    (h' : Store.answer? q (s.over tables batches).store =
      some (value, { store with committed := tables', batches := batches' }))
    (hends : ∀ s', s'.store = store → ends (.ok ⟨0, value⟩) s' tables') :
    Twins c (Service.ask (.storage q)) s tables batches ends :=
  of_run (run_ask_storage h) (run_ask_storage h') (hends _ rfl)

/-- What the body has staged in both scenes is laid over the tables of both. -/
theorem inTransaction {seen : TeamId → Prop} (hfree : s.store.staged = none)
    (hbody : Twins c service s.begun tables batches fun result s' tables' =>
      s.store.Prepares seen tables result.isOk s'.store tables') :
    Twins c (Service.inTransaction service) s tables batches fun _ s' tables' =>
      s.store.KeepsTo seen tables s'.store tables' := by
  obtain ⟨result, s', tables', batches', hrun, hrun', hcommitted, rfl, hids, hstaged⟩ := hbody
  have hfree' : (s.over tables' batches).store.staged = none := hfree
  cases result with
  | ok value =>
    obtain ⟨staged, id, hstaged, hvisible⟩ := hstaged rfl
    have hstaged' : (s'.over tables' batches').store.staged = some staged := hstaged
    refine of_run (run_inTransaction_ok hfree hrun hstaged)
      (run_inTransaction_ok hfree' hrun' hstaged') ⟨rfl, hids, ?_⟩
    change Tables.Moved seen _ _ (s'.store.committed.overlay staged) (tables'.overlay staged)
    rw [hcommitted]
    exact .overlay hvisible
  | error refusal =>
    refine of_run (run_inTransaction_error hfree hrun) (run_inTransaction_error hfree' hrun')
      ⟨rfl, hids, ?_⟩
    change Tables.Moved seen _ _ s'.store.committed tables'
    rw [hcommitted]
    exact .still

end Twins

end Scene

end TeamCalendar
