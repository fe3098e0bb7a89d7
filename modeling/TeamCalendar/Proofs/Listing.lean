import TeamCalendar.Proofs.Conversation.Beside
import TeamCalendar.Proofs.Sorting
import TeamCalendar.Proofs.Store.Tidy

/-!
# Events listed

The events of a team are listed by their starts, and those that start together by their identifiers.
No two events have the same identifier, so there is only one such list, in whatever order the events
come out of the storage.

* `Service.teamEvents_listed` says this of stores in memory and of any other storage.
-/

namespace TeamCalendar

/-- A permitted reader is told the stored events of the team. -/
theorem Scene.exists_run_teamEvents {c : Collaborators} {settings : RuntimeSettings}
    {requester : UserId} {teamId : TeamId} {role : Role} {s : Scene}
    (hpermits : c.Permits settings requester teamId Role.readers role)
    (hkeyed : s.store.committed.Keyed) :
    ∃ s', run c (Service.teamEvents settings requester teamId) s =
      some (.ok (s.store.committed.teamEvents teamId), s') := by
  have hgate := Collaborators.gate_eq_ok_iff.2 hpermits
  obtain ⟨result, s', hrun, hend⟩ := run_teamEvents c settings requester teamId s
  cases hend with
  | denied hdenied => exact absurd (hdenied.symm.trans hgate) nofun
  | listed hpermitted =>
    rw [Event.sorted_eq_self hkeyed.pairwise_before_teamEvents] at hrun
    exact ⟨_, hrun⟩

namespace Service

variable {c : Collaborators} {settings : RuntimeSettings} {requester : UserId} {teamId : TeamId}
  {role : Role}

/-- The events that any storage lists are told in order. -/
theorem converse_teamEvents {storage : Storage.Replies} {start : Tally} {listed : List Event}
    (hpermits : c.Permits settings requester teamId Role.readers role)
    (hlisted : (storage (.listTeamEvents teamId)).value = .ok listed) :
    (teamEvents settings requester teamId).converse (c.beside storage start) =
      (.ok (Event.sorted listed),
        [⟨.storage (.listTeamEvents teamId), storage (.listTeamEvents teamId)⟩,
         ⟨.directory (.membership teamId [requester]), c.membership teamId [requester]⟩]) := by
  unfold teamEvents
  refine (resume_bind_ok (resume_authorize_ok hpermits)).trans ?_
  refine resume_map_ok ((resume_bind_ok (resume_ask _ _ _)).trans ?_)
  exact resume_stored_ok hlisted

/-- A permitted reader is told the events of the team that are stored, each once and in order, from
whatever store in memory and in whatever order its rows are gone through.  Any other storage may
list events with different identifiers in any order, too, and those that are in order are told as
they are.  An event that starts in a leap second comes before those that start in the second that
follows, and after the others that start in its own. -/
theorem teamEvents_listed (hpermits : c.Permits settings requester teamId Role.readers role) :
    (∀ s : Scene, s.store.committed.Stored →
      ∃ events s', Scene.run c (teamEvents settings requester teamId) s = some (.ok events, s') ∧
        (∀ event, event ∈ events ↔
          event.teamId = teamId ∧ ∃ id : EventId, s.store.committed.events[id]? = some event) ∧
        events.Nodup ∧ events.Pairwise Event.Before ∧
        ∀ (rows : List Event) (storage : Storage.Replies) (start : Tally),
          rows.Perm s.store.committed.events.values →
          (storage (.listTeamEvents teamId)).value =
            .ok (Event.sorted (rows.filter (·.teamId = teamId))) →
          ((teamEvents settings requester teamId).converse (c.beside storage start)).1 =
            .ok events) ∧
    (∀ (storage : Storage.Replies) (start : Tally) (listed : List Event),
      (storage (.listTeamEvents teamId)).value = .ok listed → (listed.map (·.id)).Nodup →
      (∀ (storage' : Storage.Replies) (listed' : List Event),
        (storage' (.listTeamEvents teamId)).value = .ok listed' → listed.Perm listed' →
        ((teamEvents settings requester teamId).converse (c.beside storage' start)).1 =
          ((teamEvents settings requester teamId).converse (c.beside storage start)).1) ∧
      (listed.Pairwise Event.Before →
        ((teamEvents settings requester teamId).converse (c.beside storage start)).1 =
          .ok listed)) ∧
    ∀ a b : Event, Instant.nanosPerSecond ≤ a.startTime.nano →
      (a.startTime.second < b.startTime.second → a.Before b) ∧
      (b.startTime.second ≤ a.startTime.second → b.startTime.nano < Instant.nanosPerSecond →
        b.Before a) := by
  refine ⟨?_, ?_, ?_⟩
  · intro s hstored
    have hkeyed := hstored.tidy.keyed
    have hordered : (s.store.committed.teamEvents teamId).Pairwise Event.Before :=
      hkeyed.pairwise_before_teamEvents
    obtain ⟨s', hrun⟩ := Scene.exists_run_teamEvents hpermits hkeyed
    refine ⟨_, s', hrun, fun event => Tables.mem_teamEvents, hordered.imp Event.Before.ne,
      hordered, ?_⟩
    intro rows storage start hperm hlisted
    rw [converse_teamEvents hpermits hlisted, hkeyed.sorted_filter hperm,
      Event.sorted_eq_self hordered]
  · intro storage start listed hlisted hdistinct
    rw [converse_teamEvents hpermits hlisted]
    constructor
    · intro storage' listed' hlisted' hperm
      rw [converse_teamEvents hpermits hlisted', Event.sorted_eq_of_perm hdistinct hperm]
    · intro hordered
      rw [Event.sorted_eq_self hordered]
  · intro a b hleap
    rw [Event.before_iff, Event.before_iff]
    constructor
    · intro hsecond
      exact Or.inl hsecond
    · intro hsecond hnano
      omega

end Service

namespace Sample

/-- A store in which two events of the team start together. -/
def shelf : Store :=
  StoreCall.after Store.serve
    [.ask .begin, .ask (.insertEvent training), .ask (.insertEvent training), .ask .commit] {}

/-- An event that starts in a leap second. -/
def leaping : Event :=
  { meeting with id := ⟨9⟩, startTime := ⟨59, 1500000000, by decide⟩ }

/-- An event that starts in the second that follows. -/
def following : Event :=
  { meeting with id := ⟨8⟩, startTime := ⟨60, 0, by decide⟩ }

end Sample

/-- Two events that start together are told in the order of their identifiers, and an event in a
leap second before a later one, even if the storage lists it last. -/
theorem Service.teamEvents_listed_sample :
    (∃ events s', Scene.run Sample.rehearsal.collaborators
        (teamEvents Sample.settings Sample.player Sample.team) { store := Sample.shelf } =
        some (.ok events, s') ∧
      events.length = 2 ∧ events.Pairwise Event.Before) ∧
    ((teamEvents Sample.settings Sample.player Sample.team).converse
      (Sample.rehearsal.collaborators.beside
        (Sample.archive Sample.meeting [] [Sample.following, Sample.leaping]) {})).1 =
      .ok [Sample.leaping, Sample.following] := by
  have hpermits : Sample.rehearsal.collaborators.Permits Sample.settings Sample.player Sample.team
      Role.readers .player :=
    ⟨_, ⟨by decide, rfl⟩, rfl, by decide, by decide⟩
  obtain ⟨hmemory, hstorage, hleap⟩ := teamEvents_listed hpermits
  constructor
  · have hstored : Tables.Stored Sample.shelf.committed := ⟨{}, _, rfl⟩
    obtain ⟨events, s', hrun, -, -, hordered, -⟩ := hmemory { store := Sample.shelf } hstored
    obtain ⟨s'', hteam⟩ := Scene.exists_run_teamEvents (s := { store := Sample.shelf }) hpermits
      hstored.tidy.keyed
    cases Option.some.inj (hrun.symm.trans hteam)
    exact ⟨_, s', hrun, (List.length_mergeSort _).trans rfl, hordered⟩
  · obtain ⟨horder, hkept⟩ := hstorage
      (Sample.archive Sample.meeting [] [Sample.leaping, Sample.following]) {} _ rfl (by decide)
    have hbefore : Sample.leaping.Before Sample.following :=
      (hleap _ _ (by decide)).1 (by decide)
    exact (horder _ _ rfl (List.Perm.swap _ _ _)).trans (hkept (List.pairwise_pair.2 hbefore))

end TeamCalendar
