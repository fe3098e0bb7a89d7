import TeamCalendar.Proofs.Scene.Transaction
import TeamCalendar.Proofs.Store.Overlay

/-!
# What requests leave behind

A request that is refused leaves a scene `Scene.Refused`; what a command that succeeds leaves behind
is `Scene.Wrote`.  In both cases it is known which calls were made before the storage was written
to.
-/

namespace TeamCalendar

variable {α β : Type}

namespace Scene

/-- The given tables have been committed, and nothing else has happened. -/
structure Committed (s : Scene) (tables : Tables) (s' : Scene) : Prop where
  committed : s'.store.committed = tables
  staged : s'.store.staged = none
  failing : s'.store.failing = s.store.failing
  published : s'.published = s.published
  tally : s'.tally = s.tally

/-- What a command that succeeds leaves behind: the given tables are committed, and one change has
been counted and made known. -/
structure Wrote (s : Scene) (tables : Tables) (occurrence : Occurrence) (change : Change)
    (s' : Scene) : Prop where
  committed : s'.store.committed = tables
  staged : s'.store.staged = none
  failing : s'.store.failing = s.store.failing
  published : s'.published = change :: s.published
  tally : s'.tally = s.tally.add occurrence

theorem Committed.of_note {s s' : Scene} {q : Surroundings.Question} {tables : Tables}
    (h : (s.note q).Committed tables s') : s.Committed tables s' :=
  ⟨h.committed, h.staged, h.failing, h.published, h.tally⟩

theorem Committed.wrote {s s' s'' : Scene} {tables : Tables} {occurrence : Occurrence}
    {change : Change} (h : s.Committed tables s') (hstore : s''.store = s'.store)
    (htally : s''.tally = s'.tally.add occurrence)
    (hpublished : s''.published = change :: s'.published) :
    s.Wrote tables occurrence change s'' where
  committed := by rw [hstore, h.committed]
  staged := by rw [hstore, h.staged]
  failing := by rw [hstore, h.failing]
  published := by rw [hpublished, h.published]
  tally := by rw [htally, h.tally]

/-- Of all calls the later ones went to the storage, before them only the given ones were made. -/
def StoredAfter (calls : List Surroundings.Question) (s' : Scene) : Prop :=
  ∃ questions : List Storage.Question, s'.calls = questions.map .storage ++ calls

theorem StoredAfter.of_calls_eq {calls : List Surroundings.Question} {s s' : Scene}
    (h : StoredAfter calls s) (hcalls : s'.calls = s.calls) : StoredAfter calls s' := by
  rwa [StoredAfter, hcalls]

section Steps

variable {c : Collaborators} {s s' : Scene}

theorem run_ofFlaw_ok {checked : Except EventFlaw α} {value : α} (h : checked = .ok value) :
    run c (Service.ofFlaw checked) s = some (.ok value, s) := by
  rw [h]
  rfl

theorem run_ofFlaw_error {checked : Except EventFlaw α} {flaw : EventFlaw}
    (h : checked = .error flaw) :
    run c (Service.ofFlaw checked) s = some (.error (.ofFlaw flaw), s) := by
  rw [h]
  rfl

/-- The end of each command: the change is counted and made known. -/
theorem run_announce {occurrence : Occurrence} {kind : ChangeKind} {event : Event}
    {actorId : UserId} {attendanceStatus : Option Status} {value : α} :
    ∃ time s', run c (do
        Service.count occurrence
        Service.publish kind event actorId attendanceStatus
        pure value) s = some (.ok value, s') ∧
      s'.store = s.store ∧ s'.calls = s.calls ∧ s'.tally = s.tally.add occurrence ∧
      s'.published =
        { kind, event, actorId, attendanceStatus, occurredAt := time } :: s.published :=
  ⟨_, _, rfl, rfl, rfl, rfl, rfl⟩

end Steps

end Scene

end TeamCalendar
