import TeamCalendar.Proofs.Soundness

/-!
# Own responses

A user answers for nobody else.  What comes of a response is determined by the stored event, by what
the team directory says of the user, and by the record of the user; the only thing that is ever
changed is that record.

* `Tables.Responded` lists the answers, in the order in which they are looked for, and what becomes
  of the tables.
* `Run.response_exact` says that this is what the service does after any run.
-/

namespace TeamCalendar

/-- How a response of a user to an event is answered, and what becomes of the tables. -/
structure Tables.Responded (tables : Tables) (c : Collaborators) (settings : RuntimeSettings)
    (requester : UserId) (id : EventId) (status : Status) (result : Except Refusal Event)
    (tables' : Tables) : Prop where
  /-- There is no such event, whatever the team directory may say. -/
  missing : tables.events[id]? = none → result = .error (.notFound s!"event {id}")
  /-- The team directory fails or is too late. -/
  unavailable : ∀ event, tables.events[id]? = some event →
    (c.membership event.teamId [requester]).Lost settings.deadline →
    ∃ cause, result = .error (.unavailable cause)
  /-- The user has no known role in the team. -/
  forbidden : ∀ event membership, tables.events[id]? = some event →
    (c.membership event.teamId [requester]).Gives settings.deadline membership →
    (∀ role, membership[requester]? = some role → role = .unknown) → result = .error .forbidden
  /-- The user has no record for the event. -/
  absent : ∀ event membership role, tables.events[id]? = some event →
    (c.membership event.teamId [requester]).Gives settings.deadline membership →
    membership[requester]? = some role → role ≠ .unknown →
    tables.attendance[AttendanceKey.mk id requester]? = none →
    result = .error (.notFound s!"attendance of user {requester} for event {id}")
  /-- The record of the user gets the status. -/
  responded : ∀ event membership role record, tables.events[id]? = some event →
    (c.membership event.teamId [requester]).Gives settings.deadline membership →
    membership[requester]? = some role → role ≠ .unknown →
    tables.attendance[AttendanceKey.mk id requester]? = some record →
    result = .ok event ∧ ∃ time, tables'.attendance[AttendanceKey.mk id requester]? =
      some { record with status, updatedAt := time }
  /-- All other records stay as they are. -/
  others : ∀ key, key ≠ AttendanceKey.mk id requester →
    tables'.attendance[key]? = tables.attendance[key]?
  /-- All events stay as they are. -/
  events : tables'.events = tables.events
  refused : ∀ refusal, result = .error refusal → tables' = tables

theorem Role.mem_readers {role : Role} (h : role ≠ .unknown) : role ∈ readers := by
  cases role with
  | unknown => exact absurd rfl h
  | _ => decide

namespace Scene

variable {c : Collaborators} {settings : RuntimeSettings} {requester : UserId} {id : EventId}
  {status : Status} {s s' : Scene} {result : Except Refusal Event} {event : Event}

namespace Response

/-- A user with a permitted role is answered by the record. -/
theorem of_permitted {role : Role} (h : s.Response c settings requester id status result s')
    (hevent : s.store.committed.events[id]? = some event)
    (hgate : c.gate settings requester event.teamId Role.readers = .ok role) :
    (s.store.committed.attendance[AttendanceKey.mk id requester]? = none →
      result = .error (.notFound s!"attendance of user {requester} for event {id}")) ∧
    ∀ record, s.store.committed.attendance[AttendanceKey.mk id requester]? = some record →
      result = .ok event ∧
      ∃ time, s'.store.committed.attendance[AttendanceKey.mk id requester]? =
        some { record with status, updatedAt := time } := by
  cases h with
  | missing hmissing => exact absurd (hmissing.symm.trans hevent) nofun
  | denied hfound hdenied =>
    cases hfound.symm.trans hevent
    exact absurd (hdenied.symm.trans hgate) nofun
  | absent hfound hpermitted habsent =>
    exact ⟨fun _ => rfl, fun record hrecord => absurd (habsent.symm.trans hrecord) nofun⟩
  | @responded found _ row time _ _ hfound hpermitted hrecord hwrote =>
    refine ⟨fun habsent => absurd (habsent.symm.trans hrecord) nofun, ?_⟩
    intro record hother
    cases hfound.symm.trans hevent
    cases hrecord.symm.trans hother
    refine ⟨rfl, time, ?_⟩
    rw [hwrote.committed, Table.getElem?_insert]
    exact if_pos rfl

/-- A response leaves all events as they are. -/
theorem events_eq (h : s.Response c settings requester id status result s') :
    s'.store.committed.events = s.store.committed.events := by
  cases result with
  | error refusal => rw [h.refused.committed]
  | ok event =>
    cases h with
    | responded hevent hgate hrecord hwrote => rw [hwrote.committed]

/-- A response leaves all records but one as they are. -/
theorem others_eq (h : s.Response c settings requester id status result s') {key : AttendanceKey}
    (hkey : key ≠ ⟨id, requester⟩) :
    s'.store.committed.attendance[key]? = s.store.committed.attendance[key]? := by
  cases result with
  | error refusal => rw [h.refused.committed]
  | ok event =>
    cases h with
    | responded hevent hgate hrecord hwrote =>
      rw [hwrote.committed, Table.getElem?_insert]
      exact if_neg hkey.symm

end Response

/-- A response is answered in the known way, and changes nothing but the record of the user. -/
theorem run_respond_responded (c : Collaborators) (settings : RuntimeSettings)
    (requester : UserId) (id : EventId) (status : Status) (hfree : s.store.staged = none) :
    ∃ result s', run c (Service.respond settings requester id status) s = some (result, s') ∧
      s.store.committed.Responded c settings requester id status result s'.store.committed := by
  rcases run_respond c settings requester id status s with ⟨result, s', hrun, hend⟩ | ⟨hbusy, -⟩
  · have hresult : ∀ {other : Except Refusal Event} {final : Scene},
        run c (Service.respond settings requester id status) s = some (other, final) →
        result = other :=
      fun hother => congrArg Prod.fst (Option.some.inj (hrun.symm.trans hother))
    have hgate : ∀ {event : Event} {membership : Membership} {role : Role},
        (c.membership event.teamId [requester]).Gives settings.deadline membership →
        membership[requester]? = some role → role ≠ .unknown →
        c.gate settings requester event.teamId Role.readers = .ok role :=
      fun hgives hrole hknown => Collaborators.gate_eq_ok_iff.2
        ⟨_, hgives, hrole, hknown, Role.mem_readers hknown⟩
    refine ⟨result, s', hrun, ?_⟩
    constructor
    case missing => exact fun hmissing => hresult (run_respond_missing hmissing)
    case unavailable =>
      intro event hevent hlost
      obtain ⟨cause, hdenied⟩ := Collaborators.exists_gate_eq_unavailable hlost
      exact ⟨cause, hresult (run_respond_denied hevent hdenied)⟩
    case forbidden =>
      intro event membership hevent hgives hunknown
      have hdenied : c.gate settings requester event.teamId Role.readers = .error .forbidden :=
        Collaborators.gate_eq_forbidden hgives fun role hrole => Or.inl (hunknown role hrole)
      exact hresult (run_respond_denied hevent hdenied)
    case absent =>
      intro event membership role hevent hgives hrole hknown habsent
      exact (hend.of_permitted hevent (hgate hgives hrole hknown)).1 habsent
    case responded =>
      intro event membership role record hevent hgives hrole hknown hrecord
      exact (hend.of_permitted hevent (hgate hgives hrole hknown)).2 record hrecord
    case others => exact fun key hkey => hend.others_eq hkey
    case events => exact hend.events_eq
    case refused =>
      rintro refusal rfl
      exact hend.refused.committed
  · exact absurd hfree hbusy

end Scene

/-- Whatever is asked for, the records of other users stay as they are, unless a new event takes the
place of an old one. -/
theorem Entry.Effect.kept_of_ne {entry : Entry} {tables : Tables} (heffect : entry.Effect tables)
    (hfresh : entry.Fresh) (hanchored : entry.lower.Anchored) {key : AttendanceKey}
    {record : AttendanceRecord} (hrecord : entry.lower.attendance[key]? = some record)
    (hother : key.userId ≠ entry.requester) : tables.attendance[key]? = some record := by
  cases heffect with
  | none hidle => exact hrecord
  | created hoperation hvalid hroster hreply =>
    -- the event of the record was there before, so it is not the new one
    obtain ⟨event, hevent⟩ := hanchored key record hrecord
    rw [AttendanceRecord.getElem?_union_tabulate_cohort, if_neg]
    · exact hrecord
    · rintro ⟨hid, -⟩
      rw [hid] at hevent
      exact absurd ((hfresh _ hreply).symm.trans hevent) nofun
  | updated hoperation hpatched hreply => exact hrecord
  | responded hoperation hevent hown hreply =>
    rw [Table.getElem?_insert, if_neg]
    · exact hrecord
    · rintro rfl
      exact hother rfl

/-- After any requests, and among any collaborators, the response of a user is answered in the known
way and changes nothing but the record of that user; and no request at all changes the record of
another user. -/
theorem Run.response_exact {log : List Entry} {s : Scene} (hrun : Run log s) :
    (∀ c settings requester id status, ∃ result s',
      Scene.run c (Service.respond settings requester id status) s = some (result, s') ∧
      s.store.committed.Responded c settings requester id status result s'.store.committed) ∧
    ∀ entry : Entry, entry.before = s → entry.Fresh →
      ∀ (key : AttendanceKey) (record : AttendanceRecord),
        s.store.committed.attendance[key]? = some record → key.userId ≠ entry.requester →
        entry.upper.attendance[key]? = some record := by
  constructor
  · intro c settings requester id status
    exact Scene.run_respond_responded c settings requester id status hrun.free
  · rintro entry rfl hfresh key record hrecord hother
    exact entry.effect.kept_of_ne hfresh hrun.anchored hrecord hother

/-- The player takes back the response to an event that has been moved since; the record of the
coach stays as it is, and a stranger is turned away.  The coach had moved the event without a change
to the record of the player. -/
theorem Run.response_exact_sample :
    (∃ event s', Scene.run Sample.rehearsal.collaborators
        (Service.respond Sample.settings Sample.player Sample.trainingId .declined)
        Sample.change.after = some (.ok event, s') ∧
      event.startTime.second = 1800 ∧
      (s'.store.committed.attendance[AttendanceKey.mk Sample.trainingId Sample.player]?).map
        (·.status) = some .declined ∧
      (s'.store.committed.attendance[AttendanceKey.mk Sample.trainingId Sample.coach]?).map
        (·.status) = some .pending) ∧
    (∃ s', Scene.run Sample.rehearsal.collaborators
        (Service.respond Sample.settings ⟨9⟩ Sample.trainingId .declined) Sample.change.after =
        some (.error .forbidden, s') ∧
      s'.store.committed = Sample.change.after.store.committed) ∧
    ∃ record,
      Sample.change.lower.attendance[AttendanceKey.mk Sample.trainingId Sample.player]? =
        some record ∧
      Sample.change.upper.attendance[AttendanceKey.mk Sample.trainingId Sample.player]? =
        some record := by
  obtain ⟨hanswered, -⟩ := response_exact Sample.run_log
  refine ⟨?_, ?_, ?_⟩
  · obtain ⟨result, s', hrun, hresponded⟩ := hanswered Sample.rehearsal.collaborators
      Sample.settings Sample.player Sample.trainingId .declined
    obtain ⟨rfl, time, hrow⟩ := hresponded.responded _ _ .player _ rfl ⟨by decide, rfl⟩ rfl
      (by decide) rfl
    refine ⟨_, s', hrun, rfl, ?_, ?_⟩
    · rw [hrow]
      rfl
    · rw [hresponded.others _ (by decide)]
      rfl
  · obtain ⟨result, s', hrun, hresponded⟩ := hanswered Sample.rehearsal.collaborators
      Sample.settings ⟨9⟩ Sample.trainingId .declined
    have hstranger : ∀ role, (∅ : Membership)[(⟨9⟩ : UserId)]? = some role → role = .unknown := by
      intro role hrole
      rw [Std.ExtTreeMap.getElem?_empty] at hrole
      cases hrole
    cases hresponded.forbidden _ ∅ rfl ⟨by decide, rfl⟩ hstranger
    exact ⟨s', hrun, hresponded.refused _ rfl⟩
  · obtain ⟨-, hkept⟩ := response_exact
      (.visit Sample.response (.visit Sample.creation (.start ⟨rfl, rfl⟩)))
    have hfresh : Sample.change.Fresh := Sample.fresh_log _ List.mem_cons_self
    exact ⟨_, rfl, hkept Sample.change rfl hfresh _ _ rfl (by decide)⟩

end TeamCalendar
