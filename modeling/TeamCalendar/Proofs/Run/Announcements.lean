import TeamCalendar.Proofs.History
import TeamCalendar.Proofs.Run.Conclusion

/-!
# The changes made known

Whoever follows the changes that are made known, and nothing else, knows what is stored: the last
change about an event carries the event, and the last response of a user carries the user's status.

* `Entry.announcement?` is what a request has to make known, if it has to make anything known.
* `Tables.Followed` says that the tables can be told from the changes; every request keeps it.
* `Relays` is what the changes made known say of a log of requests and of the tables.
-/

namespace TeamCalendar

/-- What a change says, the time aside. -/
structure Announcement where
  kind : ChangeKind
  event : Event
  actorId : UserId
  attendanceStatus : Option Status

namespace Change

def announcement (change : Change) : Announcement :=
  ⟨change.kind, change.event, change.actorId, change.attendanceStatus⟩

/-- Whether a change is a response of a user to an event. -/
def IsResponse (change : Change) (key : AttendanceKey) : Prop :=
  change.kind = .attendanceUpdated ∧ change.event.id = key.eventId ∧ change.actorId = key.userId

instance (change : Change) (key : AttendanceKey) : Decidable (change.IsResponse key) :=
  inferInstanceAs (Decidable (_ ∧ _ ∧ _))

/-- The last change about an event; the latest of all comes first. -/
def lastAbout? (published : List Change) (id : EventId) : Option Change :=
  published.find? (·.event.id = id)

/-- The last response of a user to an event. -/
def lastResponse? (published : List Change) (key : AttendanceKey) : Option Change :=
  published.find? (·.IsResponse key)

end Change

namespace Entry

/-- What a request has to make known: a command that has succeeded, by its requester, and the status
if it was a response. -/
def announcement? (entry : Entry) : Option Announcement :=
  match entry.visit.operation, entry.reply with
  | .create _, .ok (.created created) =>
    some ⟨.eventCreated, created.event, entry.requester, none⟩
  | .update .., .ok (.updated event) => some ⟨.eventUpdated, event, entry.requester, none⟩
  | .respond _ status, .ok (.responded event) =>
    some ⟨.attendanceUpdated, event, entry.requester, some status⟩
  | _, _ => none

/-- The request was refused, or it only reads. -/
def Silent (entry : Entry) : Prop :=
  (∃ refusal, entry.reply = .error refusal) ∨ (∃ id, entry.visit.operation = .read id) ∨
    ∃ teamId, entry.visit.operation = .list teamId

variable {entry : Entry}

theorem announcement?_of_error {refusal : Refusal} (hreply : entry.reply = .error refusal) :
    entry.announcement? = none := by
  rw [announcement?, hreply]
  cases entry.visit.operation <;> rfl

/-- A request has nothing to make known exactly if it was refused or only reads. -/
theorem announcement?_eq_none_iff : entry.announcement? = none ↔ entry.Silent := by
  unfold Silent
  cases entry.conclusion with
  | refused hreply hrefused => simp [announcement?_of_error hreply, hreply]
  | created hoperation hreply hrows hwrote => simp [announcement?, hoperation, hreply]
  | updated hoperation hreply hpatched hwrote => simp [announcement?, hoperation, hreply]
  | responded hoperation hreply hevent hrecord hwrote => simp [announcement?, hoperation, hreply]
  | read hoperation hreply hkept hattendees htally => simp [announcement?, hoperation]
  | listed hoperation hreply hkept htally => simp [announcement?, hoperation]

/-- A request makes known what it has to, and nothing else. -/
theorem published_after (entry : Entry) :
    entry.after.published = entry.before.published ∧ entry.announcement? = none ∨
    ∃ change, entry.after.published = change :: entry.before.published ∧
      entry.announcement? = some change.announcement := by
  cases entry.conclusion with
  | refused hreply hrefused =>
    exact Or.inl ⟨hrefused.published, announcement?_of_error hreply⟩
  | created hoperation hreply hrows hwrote =>
    refine Or.inr ⟨_, hwrote.published, ?_⟩
    rw [announcement?, hoperation, hreply]
    rfl
  | updated hoperation hreply hpatched hwrote =>
    refine Or.inr ⟨_, hwrote.published, ?_⟩
    rw [announcement?, hoperation, hreply]
    rfl
  | responded hoperation hreply hevent hrecord hwrote =>
    refine Or.inr ⟨_, hwrote.published, ?_⟩
    rw [announcement?, hoperation, hreply]
    rfl
  | read hoperation hreply hkept hattendees htally =>
    refine Or.inl ⟨hkept.published, ?_⟩
    rw [announcement?, hoperation]
  | listed hoperation hreply hkept htally =>
    refine Or.inl ⟨hkept.published, ?_⟩
    rw [announcement?, hoperation]

/-- A silent request makes nothing known. -/
theorem Silent.published_eq (h : entry.Silent) :
    entry.after.published = entry.before.published := by
  rcases entry.published_after with ⟨hpublished, -⟩ | ⟨change, -, hsome⟩
  · exact hpublished
  · rw [announcement?_eq_none_iff.2 h] at hsome
    cases hsome

end Entry

namespace Tables

variable {tables : Tables} {published : List Change}

/-- The tables can be told from the changes made known: the last change about an event carries it,
and the last response of a user carries the user's status. -/
structure Followed (tables : Tables) (published : List Change) : Prop where
  events : ∀ id : EventId,
    tables.events[id]? = (Change.lastAbout? published id).map (·.event)
  statuses : ∀ (key : AttendanceKey) (record : AttendanceRecord),
    tables.attendance[key]? = some record →
    record.status = ((Change.lastResponse? published key).bind (·.attendanceStatus)).getD .pending
  responses : ∀ (key : AttendanceKey) (change : Change),
    Change.lastResponse? published key = some change →
    change.attendanceStatus.isSome ∧ ∃ record, tables.attendance[key]? = some record

theorem followed_nil : Followed {} [] := by
  refine ⟨?_, ?_, ?_⟩
  · intro id
    rw [Std.ExtTreeMap.getElem?_empty]
    rfl
  · intro key record hrecord
    rw [Std.ExtTreeMap.getElem?_empty] at hrecord
    cases hrecord
  · intro key change hchange
    cases hchange

/-- A change that carries an event tells that it has been put in place. -/
theorem events_putEvent_followed (h : tables.Followed published) (change : Change)
    (id : EventId) :
    (tables.putEvent change.event).events[id]? =
      (Change.lastAbout? (change :: published) id).map (·.event) := by
  rw [getElem?_events_putEvent, Change.lastAbout?, List.find?_cons]
  by_cases hid : change.event.id = id
  · simp [hid]
  · simp only [hid, decide_false, if_false]
    exact h.events id

/-- A change that is no response says nothing of responses. -/
theorem lastResponse?_cons_of_kind {change : Change} (hkind : change.kind ≠ .attendanceUpdated)
    (key : AttendanceKey) :
    Change.lastResponse? (change :: published) key = Change.lastResponse? published key := by
  have hno : ¬change.IsResponse key := fun hresponse => hkind hresponse.1
  rw [Change.lastResponse?, List.find?_cons, decide_eq_false hno]
  rfl

theorem Followed.updated (h : tables.Followed published) (change : Change)
    (hkind : change.kind = .eventUpdated) :
    (tables.putEvent change.event).Followed (change :: published) := by
  have hother : change.kind ≠ .attendanceUpdated := by simp [hkind]
  refine ⟨events_putEvent_followed h change, ?_, ?_⟩
  · intro key record hrecord
    rw [lastResponse?_cons_of_kind hother]
    exact h.statuses key record hrecord
  · intro key other hlast
    rw [lastResponse?_cons_of_kind hother] at hlast
    exact h.responses key other hlast

/-- A new event is told, and its users, of whom none can have responded. -/
theorem Followed.created (h : tables.Followed published) (change : Change) {roster : List Member}
    {time : Instant} (hkind : change.kind = .eventCreated)
    (habsent : ∀ userId, tables.attendance[AttendanceKey.mk change.event.id userId]? = none) :
    Followed
      { tables.putEvent change.event with
        attendance := tables.attendance ∪ AttendanceRecord.tabulate
          (AttendanceRecord.cohort change.event roster time) } (change :: published) := by
  have hother : change.kind ≠ .attendanceUpdated := by simp [hkind]
  refine ⟨events_putEvent_followed h change, ?_, ?_⟩
  · rintro ⟨eventId, userId⟩ record hrecord
    rw [lastResponse?_cons_of_kind hother]
    rw [AttendanceRecord.getElem?_union_tabulate_cohort] at hrecord
    split at hrecord
    · next hnew =>
      obtain ⟨rfl, -⟩ := hnew
      cases hrecord
      cases hlast : Change.lastResponse? published ⟨change.event.id, userId⟩ with
      | none => rfl
      | some other =>
        obtain ⟨-, stored, hstored⟩ := h.responses _ _ hlast
        rw [habsent] at hstored
        cases hstored
    · exact h.statuses _ record hrecord
  · intro key other hlast
    rw [lastResponse?_cons_of_kind hother] at hlast
    obtain ⟨hstatus, record, hrecord⟩ := h.responses key other hlast
    refine ⟨hstatus, ?_⟩
    rw [AttendanceRecord.getElem?_union_tabulate_cohort]
    split
    · exact ⟨_, rfl⟩
    · exact ⟨record, hrecord⟩

/-- A response is told, with the event as it is. -/
theorem Followed.responded (h : tables.Followed published) (change : Change)
    {changed : AttendanceRecord} (hkind : change.kind = .attendanceUpdated)
    (hstatus : change.attendanceStatus = some changed.status)
    (hevent : tables.events[change.event.id]? = some change.event) :
    Followed
      { tables with
        attendance := tables.attendance.insert ⟨change.event.id, change.actorId⟩ changed }
      (change :: published) := by
  have hresponse (key : AttendanceKey) :
      change.IsResponse key ↔ AttendanceKey.mk change.event.id change.actorId = key := by
    cases key
    simp [Change.IsResponse, hkind]
  have hlast (key : AttendanceKey) : Change.lastResponse? (change :: published) key =
      if AttendanceKey.mk change.event.id change.actorId = key then some change
      else Change.lastResponse? published key := by
    simp only [Change.lastResponse?, List.find?_cons, hresponse]
    split <;> simp_all
  refine ⟨?_, ?_, ?_⟩
  · intro id
    rw [Change.lastAbout?, List.find?_cons]
    by_cases hid : change.event.id = id
    · subst hid
      simpa using hevent
    · simp only [hid, decide_false]
      exact h.events id
  · intro key row hrow
    rw [Table.getElem?_insert] at hrow
    rw [hlast]
    split at hrow
    · next hkey =>
      cases hrow
      rw [if_pos hkey, Option.bind_some, hstatus]
      rfl
    · next hkey =>
      rw [if_neg hkey]
      exact h.statuses key row hrow
  · intro key other hother
    rw [hlast] at hother
    rw [Table.getElem?_insert]
    split at hother
    · next hkey =>
      cases hother
      rw [if_pos hkey, hstatus]
      exact ⟨rfl, _, rfl⟩
    · next hkey =>
      rw [if_neg hkey]
      exact h.responses key other hother

end Tables

namespace Entry

variable {entry : Entry}

/-- A request keeps the tables and the changes made known together. -/
theorem followed (entry : Entry) (hfresh : entry.Fresh) (hsound : entry.lower.Sound)
    (h : entry.lower.Followed entry.before.published) :
    entry.upper.Followed entry.after.published := by
  unfold upper
  cases entry.conclusion with
  | refused hreply hrefused =>
    rw [hrefused.committed, hrefused.published]
    exact h
  | @created new created roster time occurredAt hoperation hreply hrows hwrote =>
    rw [hwrote.committed, hwrote.published]
    apply h.created ⟨.eventCreated, created.event, entry.requester, none, occurredAt⟩ rfl
    intro userId
    cases hrecord : entry.lower.attendance[AttendanceKey.mk created.event.id userId]? with
    | none => rfl
    | some record =>
      obtain ⟨event, hevent, -⟩ := hsound.anchored _ _ hrecord
      rw [hfresh _ hreply] at hevent
      cases hevent
  | @updated teamId id patch changed occurredAt hoperation hreply hpatched hwrote =>
    rw [hwrote.committed, hwrote.published]
    exact h.updated ⟨.eventUpdated, changed, entry.requester, none, occurredAt⟩ rfl
  | @responded id status event record time occurredAt hoperation hreply hevent hrecord hwrote =>
    have hid := hsound.keyed id event hevent
    subst hid
    rw [hwrote.committed, hwrote.published]
    exact h.responded ⟨.attendanceUpdated, event, entry.requester, some status, occurredAt⟩ rfl rfl
      hevent
  | read hoperation hreply hkept hattendees htally =>
    rw [hkept.committed, hkept.published]
    exact h
  | listed hoperation hreply hkept htally =>
    rw [hkept.committed, hkept.published]
    exact h

end Entry

namespace FullRun

variable {log : List Entry} {s : Scene}

/-- The changes made known are those that the requests had to make known, in order. -/
theorem map_announcement (hrun : FullRun log s) :
    s.published.map (·.announcement) = log.filterMap (·.announcement?) := by
  induction hrun with
  | start hpristine =>
    rw [hpristine.silent]
    rfl
  | switch hrun failing ih => exact ih
  | visit entry hrun ih =>
    rcases entry.published_after with ⟨hpublished, hnone⟩ | ⟨change, hpublished, hsome⟩
    · rw [hpublished, List.filterMap_cons_none hnone]
      exact ih
    · rw [hpublished, List.filterMap_cons_some hsome, List.map_cons, ih]

/-- At the end of a run the tables can be told from the changes made known. -/
theorem followed (hrun : FullRun log s) (hfresh : ∀ entry ∈ log, entry.Fresh) :
    s.store.committed.Followed s.published := by
  induction hrun with
  | start hpristine =>
    rw [hpristine.empty, hpristine.silent]
    exact Tables.followed_nil
  | switch hrun failing ih => exact ih hfresh
  | visit entry hrun ih =>
    rw [List.forall_mem_cons] at hfresh
    exact entry.followed hfresh.1 ((FullRun.run hrun).sound hfresh.2) (ih hfresh.2)

/-- A response that was recorded has been made known as one. -/
theorem exists_lastResponse? (hrun : FullRun log s) (hfresh : ∀ entry ∈ log, entry.Fresh)
    {entry : Entry} (hentry : entry ∈ log) {id : EventId} {status : Status}
    (hoperation : entry.visit.operation = .respond id status) (hreply : entry.reply.isOk = true) :
    ∃ change, Change.lastResponse? s.published ⟨id, entry.requester⟩ = some change := by
  obtain ⟨earlier, hearlier, hsubset⟩ := hrun.exists_earlier hentry
  have hsound := (FullRun.run hearlier).sound fun other hother => hfresh other (hsubset hother)
  have hannounced : ∃ event, event.id = id ∧ entry.announcement? =
      some ⟨.attendanceUpdated, event, entry.requester, some status⟩ := by
    cases entry.conclusion with
    | refused hrefusal hrefused =>
      rw [hrefusal] at hreply
      cases hreply
    | responded hrespond hresponded hevent hrecord hwrote =>
      rw [hoperation] at hrespond
      cases hrespond
      refine ⟨_, hsound.keyed _ _ hevent, ?_⟩
      rw [Entry.announcement?, hoperation, hresponded]
    | created hother | updated hother | read hother | listed hother =>
      rw [hoperation] at hother
      cases hother
  obtain ⟨event, rfl, hannouncement⟩ := hannounced
  -- what the request had to make known is among the changes
  have hmem := List.mem_filterMap.2 ⟨entry, hentry, hannouncement⟩
  rw [← hrun.map_announcement] at hmem
  obtain ⟨change, hchange, heq⟩ := List.mem_map.1 hmem
  simp only [Change.announcement, Announcement.mk.injEq] at heq
  obtain ⟨hkind, hevent, hactor, -⟩ := heq
  rw [← Option.isSome_iff_exists, Change.lastResponse?, List.find?_isSome]
  refine ⟨change, hchange, decide_eq_true ⟨hkind, ?_, hactor⟩⟩
  rw [hevent]

end FullRun

/-- What the changes made known say of the requests of a log and of the scene that they lead to. -/
structure Relays (log : List Entry) (s : Scene) : Prop where
  /-- Each command that has succeeded has made one change known, in order, and nothing else has been
  made known. -/
  announced : s.published.map (·.announcement) = log.filterMap (·.announcement?)
  /-- What was refused and what only reads has nothing to make known, and all else has something. -/
  silent : ∀ entry ∈ log, entry.announcement? = none ↔ entry.Silent
  /-- What was refused and what only reads has made nothing known. -/
  unchanged : ∀ entry ∈ log, entry.Silent → entry.after.published = entry.before.published
  /-- The events that are stored are those that the last changes about them carry. -/
  events : ∀ id : EventId,
    s.store.committed.events[id]? = (Change.lastAbout? s.published id).map (·.event)
  /-- A user who has responded to an event has the status of the user's last response to it. -/
  statuses : ∀ entry ∈ log, ∀ id status, entry.visit.operation = .respond id status →
    entry.reply.isOk = true →
    ∃ record change,
      s.store.committed.attendance[AttendanceKey.mk id entry.requester]? = some record ∧
      Change.lastResponse? s.published ⟨id, entry.requester⟩ = some change ∧
      change.attendanceStatus = some record.status

/-- Whatever requests are carried out, in any order and among any collaborators, the changes made
known are those of the commands that succeeded, and the tables can be told from them. -/
theorem FullRun.relays {log : List Entry} {s : Scene} (hrun : FullRun log s)
    (hfresh : ∀ entry ∈ log, entry.Fresh) : Relays log s := by
  have hfollowed := hrun.followed hfresh
  refine ⟨hrun.map_announcement, ?_, ?_, hfollowed.events, ?_⟩
  · intro entry hentry
    exact Entry.announcement?_eq_none_iff
  · intro entry hentry hsilent
    exact hsilent.published_eq
  · intro entry hentry id status hoperation hreply
    obtain ⟨change, hlast⟩ := hrun.exists_lastResponse? hfresh hentry hoperation hreply
    obtain ⟨hresponse, record, hrecord⟩ := hfollowed.responses _ _ hlast
    obtain ⟨last, hstatus⟩ := Option.isSome_iff_exists.1 hresponse
    refine ⟨record, change, hrecord, hlast, ?_⟩
    rw [hfollowed.statuses _ _ hrecord, hlast, Option.bind_some, hstatus]
    rfl

/-- Three commands have made three changes known, and the last one carries the event as it is. -/
theorem FullRun.relays_sample :
    Relays Sample.log Sample.change.after ∧
    Sample.change.after.published.map (·.kind) =
      [.eventUpdated, .attendanceUpdated, .eventCreated] ∧
    Sample.change.after.published.map (·.attendanceStatus) = [none, some .accepted, none] ∧
    (∃ event, Sample.change.upper.events[Sample.trainingId]? = some event ∧
      (Sample.change.after.published.map (·.event)).head? = some event) :=
  ⟨FullRun.relays Sample.fullRun_log Sample.fresh_log, rfl, rfl, _, rfl, rfl⟩

end TeamCalendar
