import TeamCalendar.Proofs.Scene.Outcome

/-!
# Changing an event in a scene

`Tables.Patched` says what comes of a patch, given the committed tables, and `Scene.Update` has one
case for each way in which changing an event may end.

* `Scene.run_updateEvent` says that there are no other ends, except that the request may wait for an
  open transaction.
-/

namespace TeamCalendar

namespace Service

/-- Writes the change of the event that has been found. -/
def writeChange (teamId : TeamId) (id : EventId) (patch : Patch) (current : Event) :
    Service Event := do
  if current.teamId = teamId then
    let changed ← ofFlaw (patch.apply current)
    if ← stored (← ask (.storage (.updateEvent changed))) then
      pure changed
    else
      throw (.notFound s!"event {id}")
  else
    throw (.notFound s!"event {id}")

/-- Finds an event and writes its change. -/
def writePatch (teamId : TeamId) (id : EventId) (patch : Patch) : Service Event := do
  match ← stored (← ask (.storage (.lockEvent id))) with
  | none => throw (.notFound s!"event {id}")
  | some current => writeChange teamId id patch current

theorem storePatch_of_isEmpty {teamId : TeamId} {id : EventId} {patch : Patch}
    (h : patch.isEmpty = true) :
    storePatch teamId id patch = throw (.ofFlaw .emptyPatch) := by
  unfold storePatch
  rw [if_pos h]
  rfl

theorem storePatch_of_not_isEmpty {teamId : TeamId} {id : EventId} {patch : Patch}
    (h : ¬patch.isEmpty = true) :
    storePatch teamId id patch = inTransaction (writePatch teamId id patch) := by
  unfold storePatch writePatch writeChange
  exact if_neg h

end Service

/-- What comes of a patch for an event of a team. -/
inductive Tables.Patched (tables : Tables) (teamId : TeamId) (id : EventId) (patch : Patch) :
    Except Refusal Event → Prop where
  /-- The team has no such event. -/
  | missing (hmissing : ∀ current, tables.events[id]? = some current → current.teamId ≠ teamId) :
    Patched tables teamId id patch (.error (.notFound s!"event {id}"))
  /-- The changed event has a flaw. -/
  | flawed {current : Event} {flaw : EventFlaw} (hcurrent : tables.events[id]? = some current)
    (hteam : current.teamId = teamId) (hflaw : patch.apply current = .error flaw) :
    Patched tables teamId id patch (.error (.ofFlaw flaw))
  /-- The event that was found is not stored under its own identifier. -/
  | astray {current changed : Event} (hcurrent : tables.events[id]? = some current)
    (hteam : current.teamId = teamId) (hchanged : patch.apply current = .ok changed)
    (hastray : ∀ row, tables.events[changed.id]? = some row → row.teamId ≠ changed.teamId) :
    Patched tables teamId id patch (.error (.notFound s!"event {id}"))
  /-- The changed event can be written. -/
  | changed {current changed : Event} (hcurrent : tables.events[id]? = some current)
    (hteam : current.teamId = teamId) (hchanged : patch.apply current = .ok changed) :
    Patched tables teamId id patch (.ok changed)

namespace Scene

/-- How changing an event may end. -/
inductive Update (c : Collaborators) (settings : RuntimeSettings) (requester : UserId)
    (teamId : TeamId) (id : EventId) (patch : Patch) (s : Scene) :
    Except Refusal Event → Scene → Prop where
  /-- The requester is not shown to have a permitted role. -/
  | denied {refusal : Refusal}
    (hgate : c.gate settings requester teamId settings.eventWriteRoles = .error refusal) :
    Update c settings requester teamId id patch s (.error refusal)
      (s.gated c settings requester teamId)
  /-- The patch changes nothing. -/
  | empty {role : Role}
    (hgate : c.gate settings requester teamId settings.eventWriteRoles = .ok role)
    (hempty : patch.isEmpty = true) :
    Update c settings requester teamId id patch s (.error (.ofFlaw .emptyPatch))
      (s.note (.directory (.membership teamId [requester])))
  /-- There is no event to be changed, or the change has a flaw. -/
  | unpatched {role : Role} {refusal : Refusal} {s' : Scene}
    (hgate : c.gate settings requester teamId settings.eventWriteRoles = .ok role)
    (hpatched : s.store.committed.Patched teamId id patch (.error refusal))
    (hrefused : s.Refused refusal s')
    (hcalls : StoredAfter (.directory (.membership teamId [requester]) :: s.calls) s') :
    Update c settings requester teamId id patch s (.error refusal) s'
  /-- The changed event has been written. -/
  | changed {role : Role} {changed : Event} {occurredAt : Instant} {s' : Scene}
    (hgate : c.gate settings requester teamId settings.eventWriteRoles = .ok role)
    (hpatched : s.store.committed.Patched teamId id patch (.ok changed))
    (hwrote : s.Wrote (s.store.committed.putEvent changed) .eventUpdated
      { kind := .eventUpdated, event := changed, actorId := requester, occurredAt } s')
    (hcalls : StoredAfter (.directory (.membership teamId [requester]) :: s.calls) s') :
    Update c settings requester teamId id patch s (.ok changed) s'

section Update

variable {c : Collaborators} {settings : RuntimeSettings} {requester : UserId} {teamId : TeamId}
  {id : EventId} {patch : Patch} {s : Scene}

/-- The scene after the event to be changed has been looked up within a new transaction. -/
def locked (s : Scene) (id : EventId) : Scene :=
  s.begun.keep (.lockEvent id) s.begun.store

theorem run_writePatch_missing (c : Collaborators) (teamId : TeamId) (patch : Patch)
    (hmissing : s.store.committed.events[id]? = none) :
    run c (Service.writePatch teamId id patch) s.begun =
      some (.error (.notFound s!"event {id}"), s.locked id) := by
  have hstaged : s.begun.store.staged = some {} := rfl
  have hlock := Store.answer?_lockEvent hstaged
    ((Store.event?_transaction_empty _ id).trans hmissing)
  unfold Service.writePatch
  refine (run_bind_ok (run_ask_storage hlock)).trans ?_
  exact run_bind_ok run_stored_ok

theorem run_writePatch_found (c : Collaborators) (teamId : TeamId) (patch : Patch) {current : Event}
    (hcurrent : s.store.committed.events[id]? = some current) :
    run c (Service.writePatch teamId id patch) s.begun =
      run c (Service.writeChange teamId id patch current) (s.locked id) := by
  have hstaged : s.begun.store.staged = some {} := rfl
  have hlock := Store.answer?_lockEvent hstaged
    ((Store.event?_transaction_empty _ id).trans hcurrent)
  unfold Service.writePatch
  refine (run_bind_ok (run_ask_storage hlock)).trans ?_
  exact run_bind_ok run_stored_ok

variable {current changed : Event}

theorem run_writeChange_foreign (hteam : current.teamId ≠ teamId) (patch : Patch) :
    run c (Service.writeChange teamId id patch current) s =
      some (.error (.notFound s!"event {id}"), s) := by
  unfold Service.writeChange
  rw [if_neg hteam]
  rfl

theorem run_writeChange_flawed (hteam : current.teamId = teamId) {flaw : EventFlaw}
    (hflaw : patch.apply current = .error flaw) :
    run c (Service.writeChange teamId id patch current) s =
      some (.error (.ofFlaw flaw), s) := by
  unfold Service.writeChange
  rw [if_pos hteam]
  exact run_bind_error (run_ofFlaw_error hflaw)

theorem run_writeChange_astray (hteam : current.teamId = teamId)
    (hchanged : patch.apply current = .ok changed)
    (hastray : ∀ row, s.store.committed.events[changed.id]? = some row →
      row.teamId ≠ changed.teamId) :
    run c (Service.writeChange teamId id patch current) (s.locked id) =
      some (.error (.notFound s!"event {id}"),
        (s.locked id).keep (.updateEvent changed) (s.locked id).store) := by
  have hstaged : (s.locked id).store.staged = some {} := rfl
  have hupdate := Store.answer?_updateEvent_false hstaged
    fun row hrow => hastray row ((Store.event?_transaction_empty _ _).symm.trans hrow)
  unfold Service.writeChange
  rw [if_pos hteam]
  refine (run_bind_ok (run_ofFlaw_ok hchanged)).trans ?_
  refine (run_bind_ok (run_ask_storage hupdate)).trans ?_
  exact run_bind_ok run_stored_ok

theorem run_writeChange_ok (hteam : current.teamId = teamId)
    (hchanged : patch.apply current = .ok changed) {row : Event}
    (hrow : s.store.committed.events[changed.id]? = some row)
    (hrowTeam : row.teamId = changed.teamId) :
    run c (Service.writeChange teamId id patch current) (s.locked id) =
      some (.ok changed, (s.locked id).keep (.updateEvent changed)
        { (s.locked id).store with staged := some (Tables.putEvent {} changed) }) := by
  have hstaged : (s.locked id).store.staged = some {} := rfl
  have hupdate := Store.answer?_updateEvent_true hstaged
    ((Store.event?_transaction_empty _ _).trans hrow) hrowTeam
  unfold Service.writeChange
  rw [if_pos hteam]
  refine (run_bind_ok (run_ofFlaw_ok hchanged)).trans ?_
  refine (run_bind_ok (run_ask_storage hupdate)).trans ?_
  exact run_bind_ok run_stored_ok

/-- Either there is a reason not to write the change, and then nothing has been written, or the
changed event is committed. -/
theorem run_inTransaction_writePatch (c : Collaborators) (hfree : s.store.staged = none)
    (teamId : TeamId) (id : EventId) (patch : Patch) :
    (∃ refusal s', run c (Service.inTransaction (Service.writePatch teamId id patch)) s =
        some (.error refusal, s') ∧
      s.store.committed.Patched teamId id patch (.error refusal) ∧
      s.Refused refusal s' ∧ StoredAfter s.calls s') ∨
    (∃ changed s', run c (Service.inTransaction (Service.writePatch teamId id patch)) s =
        some (.ok changed, s') ∧
      s.store.committed.Patched teamId id patch (.ok changed) ∧
      s.Committed (s.store.committed.putEvent changed) s' ∧ StoredAfter s.calls s') := by
  cases hfound : s.store.committed.events[id]? with
  | none =>
    have hbody := run_writePatch_missing c teamId patch hfound
    refine Or.inl ⟨_, _, run_inTransaction_error hfree hbody, .missing ?_,
      ⟨⟨rfl, hfree.symm, rfl, rfl⟩, rfl⟩, [.rollback, .lockEvent id, .begin], rfl⟩
    intro current hcurrent
    rw [hfound] at hcurrent
    cases hcurrent
  | some current =>
    have hwrite := run_writePatch_found c teamId patch hfound
    by_cases hteam : current.teamId = teamId
    · cases hchanged : patch.apply current with
      | error flaw =>
        have hbody := hwrite.trans (run_writeChange_flawed hteam hchanged)
        exact Or.inl ⟨_, _, run_inTransaction_error hfree hbody, .flawed hfound hteam hchanged,
          ⟨⟨rfl, hfree.symm, rfl, rfl⟩, rfl⟩, [.rollback, .lockEvent id, .begin], rfl⟩
      | ok changed =>
        -- the store looks the event up once more, now under the identifier that it bears
        by_cases hrow : ∃ row, s.store.committed.events[changed.id]? = some row ∧
            row.teamId = changed.teamId
        · obtain ⟨row, hrow, hrowTeam⟩ := hrow
          have hbody := hwrite.trans (run_writeChange_ok hteam hchanged hrow hrowTeam)
          exact Or.inr ⟨_, _, run_inTransaction_ok hfree hbody rfl,
            .changed hfound hteam hchanged,
            ⟨Tables.overlay_putEvent _ _, rfl, rfl, rfl, rfl⟩,
            [.commit, .updateEvent changed, .lockEvent id, .begin], rfl⟩
        · have hastray : ∀ row, s.store.committed.events[changed.id]? = some row →
              row.teamId ≠ changed.teamId :=
            fun row hstored hrowTeam => hrow ⟨row, hstored, hrowTeam⟩
          have hbody := hwrite.trans (run_writeChange_astray hteam hchanged hastray)
          exact Or.inl ⟨_, _, run_inTransaction_error hfree hbody,
            .astray hfound hteam hchanged hastray, ⟨⟨rfl, hfree.symm, rfl, rfl⟩, rfl⟩,
            [.rollback, .updateEvent changed, .lockEvent id, .begin], rfl⟩
    · have hbody := hwrite.trans (run_writeChange_foreign hteam patch)
      refine Or.inl ⟨_, _, run_inTransaction_error hfree hbody, .missing ?_,
        ⟨⟨rfl, hfree.symm, rfl, rfl⟩, rfl⟩, [.rollback, .lockEvent id, .begin], rfl⟩
      intro other hother
      rw [hfound] at hother
      cases hother
      exact hteam

theorem run_updateEvent_denied {refusal : Refusal}
    (hgate : c.gate settings requester teamId settings.eventWriteRoles = .error refusal) :
    run c (Service.updateEvent settings requester teamId id patch) s =
      some (.error refusal, s.gated c settings requester teamId) := by
  unfold Service.updateEvent
  exact run_bind_error (run_authorize_error hgate)

theorem run_updateEvent_permitted {role : Role}
    (hgate : c.gate settings requester teamId settings.eventWriteRoles = .ok role) :
    run c (Service.updateEvent settings requester teamId id patch) s =
      run c (do
        let changed ← Service.storePatch teamId id patch
        Service.count .eventUpdated
        Service.publish .eventUpdated changed requester none
        pure changed) (s.note (.directory (.membership teamId [requester]))) := by
  unfold Service.updateEvent
  exact run_bind_ok (run_authorize_ok hgate)

/-- Changing an event ends in one of the known ways, or waits for an open transaction. -/
theorem run_updateEvent (c : Collaborators) (settings : RuntimeSettings) (requester : UserId)
    (teamId : TeamId) (id : EventId) (patch : Patch) (s : Scene) :
    (∃ result s',
      run c (Service.updateEvent settings requester teamId id patch) s = some (result, s') ∧
      Update c settings requester teamId id patch s result s') ∨
    s.store.staged ≠ none ∧
      run c (Service.updateEvent settings requester teamId id patch) s = none := by
  cases hgate : c.gate settings requester teamId settings.eventWriteRoles with
  | error refusal =>
    exact Or.inl ⟨_, _, run_updateEvent_denied hgate, .denied hgate⟩
  | ok role =>
    rw [run_updateEvent_permitted hgate]
    by_cases hempty : patch.isEmpty = true
    · rw [Service.storePatch_of_isEmpty hempty]
      exact Or.inl ⟨_, _, run_bind_error (run_throw c _ _), .empty hgate hempty⟩
    · rw [Service.storePatch_of_not_isEmpty hempty]
      by_cases hfree : s.store.staged = none
      · left
        rcases run_inTransaction_writePatch c
            (s := s.note (.directory (.membership teamId [requester]))) hfree teamId id patch with
          ⟨refusal, s', hrun, hpatched, hrefused, hcalls⟩ |
          ⟨changed, s', hrun, hpatched, hcommitted, hcalls⟩
        · refine ⟨_, s', run_bind_error hrun, ?_⟩
          exact .unpatched hgate hpatched hrefused.of_note hcalls
        · obtain ⟨occurredAt, s'', hannounce, hstore, hasked, htally, hpublished⟩ := run_announce
          refine ⟨_, s'', (run_bind_ok hrun).trans hannounce, ?_⟩
          have hwrote := hcommitted.of_note.wrote hstore htally hpublished
          exact .changed hgate hpatched hwrote (hcalls.of_calls_eq hasked)
      · exact Or.inr ⟨hfree, run_bind_none (run_inTransaction_busy hfree)⟩

end Update

/-- A change that is refused leaves everything as it was. -/
theorem Update.refused {c : Collaborators} {settings : RuntimeSettings} {requester : UserId}
    {teamId : TeamId} {id : EventId} {patch : Patch} {s s' : Scene} {refusal : Refusal}
    (h : s.Update c settings requester teamId id patch (.error refusal) s') :
    s.Refused refusal s' := by
  cases h with
  | denied hgate => exact refused_gated hgate
  | empty => exact ⟨⟨rfl, rfl, rfl, rfl⟩, rfl⟩
  | unpatched hgate hpatched hrefused => exact hrefused

/-- A change leaves no transaction open. -/
theorem Update.free {c : Collaborators} {settings : RuntimeSettings} {requester : UserId}
    {teamId : TeamId} {id : EventId} {patch : Patch} {s s' : Scene} {result : Except Refusal Event}
    (h : s.Update c settings requester teamId id patch result s')
    (hfree : s.store.staged = none) : s'.store.staged = none := by
  cases result with
  | error refusal => exact h.refused.staged.trans hfree
  | ok changed =>
    cases h with
    | changed hgate hpatched hwrote => exact hwrote.staged

end Scene

end TeamCalendar
