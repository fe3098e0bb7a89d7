import TeamCalendar.Proofs.Amendment

/-!
# Amendments in sequence

Two patches, one applied after the other, do what one patch does that has the values of both; where
both have a value, that of the later one counts.  The range of the times is judged twice on the way
with two patches, and only once with the merged one.

* `Patch.apply_andThen` says that a merged patch does what the later one does to the event that the
  earlier one has made, whether this succeeds or not.
* `Patch.composes` adds what follows for patches and for requests that are repeated.
-/

namespace TeamCalendar

namespace Patch

variable {patch earlier later : Patch} {event between changed : Event}

/-- The values of both patches; where both have one, that of the later patch. -/
def andThen (earlier later : Patch) : Patch where
  title := later.title.or earlier.title
  location := later.location.or earlier.location
  startTime := later.startTime.or earlier.startTime
  endTime := later.endTime.or earlier.endTime

@[simp]
theorem andThen_self (patch : Patch) : patch.andThen patch = patch := by
  simp [andThen]

@[simp]
theorem isEmpty_andThen (earlier later : Patch) :
    (earlier.andThen later).isEmpty = (earlier.isEmpty && later.isEmpty) := by
  simp only [isEmpty, andThen, Option.isNone_or]
  ac_rfl

/-- A value that both patches may have is put in the place of an old one, once or twice. -/
theorem getD_map_or {α β : Type} (f : α → β) (later earlier : Option α) (old : β) :
    ((later.or earlier).map f).getD old = (later.map f).getD ((earlier.map f).getD old) := by
  cases later <;> rfl

/-- The values of a merged patch are laid over an event as those of the two patches in turn. -/
theorem overlay_andThen (earlier later : Patch) (event : Event) :
    (earlier.andThen later).overlay event = later.overlay (earlier.overlay event) := by
  simp only [overlay, andThen, getD_map_or, Option.getD_or]

/-- What a merged patch comes to is what the later patch comes to after the earlier one, be it a
changed event or a flaw. -/
theorem apply_andThen (hearlier : earlier.apply event = .ok between)
    (hlater : later.isEmpty = false) :
    (earlier.andThen later).apply event = later.apply between := by
  obtain ⟨-, htitle, -, rfl⟩ := apply_eq_ok_iff.1 hearlier
  have hmerged : (earlier.andThen later).isEmpty = false := by
    rw [isEmpty_andThen, hlater, Bool.and_false]
  -- a blank title can only be that of the later patch
  have hblank : (earlier.andThen later).title.any Text.isBlankText =
      later.title.any Text.isBlankText := by
    cases hcase : later.title with
    | none => simpa [andThen, hcase] using htitle
    | some title => simp [andThen, hcase]
  rw [apply, apply, overlay_andThen, hmerged, hlater, hblank]

/-- A patch does not change anything any more in the event that it has made. -/
theorem apply_of_apply (h : patch.apply event = .ok changed) : patch.apply changed = .ok changed := by
  have hmerged := apply_andThen h (apply_eq_ok_iff.1 h).1
  rw [andThen_self, h] at hmerged
  exact hmerged.symm

end Patch

namespace Tables

variable {tables : Tables} {teamId : TeamId} {id : EventId} {patch : Patch} {changed : Event}

/-- A stored event may be put in its own place. -/
theorem putEvent_of_stored {event : Event} (h : tables.events[event.id]? = some event) :
    tables.putEvent event = tables := by
  obtain ⟨events, attendance⟩ := tables
  have hevents : events.insert event.id event = events := by
    refine Std.ExtTreeMap.ext_getElem? fun other => ?_
    rw [Table.getElem?_insert]
    split
    · next heq =>
      rw [← heq]
      exact h.symm
    · rfl
  rw [putEvent, hevents]

/-- A change can be asked for again when it has been made, and comes to the same. -/
theorem amendment_putEvent (hkeyed : tables.Keyed)
    (h : tables.amendment teamId id patch = .ok changed) :
    (tables.putEvent changed).amendment teamId id patch = .ok changed := by
  obtain ⟨event, hevent, hteam, happly⟩ := exists_of_amendment_ok h
  obtain ⟨hfilled, -, -, hchanged⟩ := Patch.apply_eq_ok_iff.1 happly
  have hpatch : patch ≠ {} := by
    rintro rfl
    cases hfilled
  have hid : changed.id = id := by
    rw [← hchanged]
    exact hkeyed id event hevent
  have hstored : (tables.putEvent changed).events[id]? = some changed := by
    rw [getElem?_events_putEvent, if_pos hid]
  have hsame : changed.teamId = teamId := by
    rw [← hchanged]
    exact hteam
  rw [amendment_stored hpatch hstored hsame, Patch.apply_of_apply happly]
  rfl

end Tables

namespace Scene

variable {c : Collaborators} {settings : RuntimeSettings} {requester : UserId} {teamId : TeamId}
  {id : EventId} {patch : Patch} {changed : Event} {s s' : Scene}

/-- A request that has changed an event may be repeated by anybody, among any collaborators: whoever
is permitted to is told of the same event, and the tables stay as they are in any case. -/
theorem run_updateEvent_again (hfree : s.store.staged = none) (hkeyed : s.store.committed.Keyed)
    (hrun : run c (Service.updateEvent settings requester teamId id patch) s =
      some (.ok changed, s'))
    (c' : Collaborators) (settings' : RuntimeSettings) (requester' : UserId) :
    ∃ s'', run c' (Service.updateEvent settings' requester' teamId id patch) s' =
        some ((c'.gate settings' requester' teamId settings'.eventWriteRoles).map fun _ => changed,
          s'') ∧
      s''.store.committed = s'.store.committed := by
  obtain ⟨role, hgate⟩ :
      ∃ role, c.gate settings requester teamId settings.eventWriteRoles = .ok role := by
    cases hgate : c.gate settings requester teamId settings.eventWriteRoles with
    | ok role => exact ⟨role, rfl⟩
    | error refusal =>
      rw [run_updateEvent_denied hgate] at hrun
      cases hrun
  obtain ⟨after, hfirst, hend⟩ :=
    run_updateEvent_amendment hfree hkeyed (Collaborators.gate_eq_ok_iff.1 hgate) id patch
  rw [hrun, Option.some.injEq, Prod.mk.injEq] at hfirst
  obtain ⟨hamendment, rfl⟩ := hfirst
  rw [← hamendment] at hend
  cases hend with
  | changed _ _ hwrote =>
    have hagain := Tables.amendment_putEvent hkeyed hamendment.symm
    have hstored : (s.store.committed.putEvent changed).events[changed.id]? = some changed := by
      rw [Tables.getElem?_events_putEvent, if_pos rfl]
    rw [← hwrote.committed] at hagain hstored
    cases hgate' : c'.gate settings' requester' teamId settings'.eventWriteRoles with
    | error refusal =>
      refine ⟨_, run_updateEvent_denied hgate', ?_⟩
      rw [store_gated]
    | ok role' =>
      have hkeyed' : s'.store.committed.Keyed := by
        rw [hwrote.committed]
        exact hkeyed.putEvent changed
      obtain ⟨s'', hsecond, hend'⟩ := run_updateEvent_amendment hwrote.staged hkeyed'
        (Collaborators.gate_eq_ok_iff.1 hgate') id patch
      rw [hagain] at hsecond hend'
      refine ⟨s'', hsecond, ?_⟩
      cases hend' with
      | changed _ _ hwrote' => rw [hwrote'.committed, Tables.putEvent_of_stored hstored]

end Scene

namespace Patch

/-- Patches compose.  If two patches can be applied one after the other, the merged patch can be
applied in their place and gives the same event.  A patch can be applied again to the event that it
has made, and leaves it as it is; and so, after any requests, a request that has changed an event can
be repeated: it is answered with the same event, unless the requester is not permitted to change it
any more, and no row is changed. -/
theorem composes :
    (∀ (earlier later : Patch) (event between last : Event), earlier.apply event = .ok between →
      later.apply between = .ok last → (earlier.andThen later).apply event = .ok last) ∧
    (∀ (patch : Patch) (event changed : Event), patch.apply event = .ok changed →
      patch.apply changed = .ok changed) ∧
    ∀ (log : List Entry) (s s' : Scene) (c c' : Collaborators) (settings settings' : RuntimeSettings)
      (requester requester' : UserId) (teamId : TeamId) (id : EventId) (patch : Patch)
      (changed : Event), Run log s →
      Scene.run c (Service.updateEvent settings requester teamId id patch) s =
        some (.ok changed, s') →
      ∃ s'', Scene.run c' (Service.updateEvent settings' requester' teamId id patch) s' =
          some ((c'.gate settings' requester' teamId settings'.eventWriteRoles).map
            fun _ => changed, s'') ∧
        s''.store.committed = s'.store.committed := by
  refine ⟨?_, ?_, ?_⟩
  · intro earlier later event between last hearlier hlater
    rw [apply_andThen hearlier (apply_eq_ok_iff.1 hlater).1]
    exact hlater
  · intro patch event changed h
    exact apply_of_apply h
  · intro log s s' c c' settings settings' requester requester' teamId id patch changed hrun hfirst
    exact Scene.run_updateEvent_again hrun.free hrun.stocked.keyed hfirst c' settings' requester'

/-- The start can be moved to the old end after the end has been moved, and so it can together with
it.  When the coach has moved the start, the coach may do so again, and the player still may not. -/
theorem composes_sample :
    (∃ last, (({ endTime := some ⟨7200, 999, by decide⟩ } : Patch).andThen
          { startTime := some ⟨3600, 1, by decide⟩ }).apply (({} : Store).newEvent Sample.training) =
        .ok last ∧
      last.startTime.second = 3600 ∧ last.endTime.second = 7200 ∧ last.endTime.nano = 0) ∧
    (∃ changed s', Scene.run Sample.rehearsal.collaborators
        (Service.updateEvent Sample.settings Sample.coach Sample.team Sample.trainingId
          { startTime := some ⟨1800, 5, by decide⟩ }) Sample.change.after = some (.ok changed, s') ∧
      changed.startTime.second = 1800 ∧
      s'.store.committed = Sample.change.after.store.committed) ∧
    ∃ s', Scene.run Sample.rehearsal.collaborators
        (Service.updateEvent Sample.settings Sample.player Sample.team Sample.trainingId
          { startTime := some ⟨1800, 5, by decide⟩ }) Sample.change.after =
        some (.error .forbidden, s') ∧
      s'.store.committed = Sample.change.after.store.committed := by
  obtain ⟨hmerged, -, hagain⟩ := composes
  have hrun : Run [Sample.response, Sample.creation] Sample.response.after :=
    .visit Sample.response (.visit Sample.creation (.start ⟨rfl, rfl⟩))
  have hrepeated (requester : UserId) := hagain _ _ Sample.change.after
    Sample.rehearsal.collaborators Sample.rehearsal.collaborators Sample.settings Sample.settings
    Sample.coach requester Sample.team Sample.trainingId { startTime := some ⟨1800, 5, by decide⟩ }
    _ hrun rfl
  refine ⟨⟨_, hmerged _ _ _ _ _ rfl rfl, rfl, rfl, rfl⟩, ?_, hrepeated Sample.player⟩
  obtain ⟨s', hsecond, hkept⟩ := hrepeated Sample.coach
  exact ⟨_, s', hsecond, rfl, hkept⟩

end Patch

end TeamCalendar
