import TeamCalendar.Proofs.Soundness

/-!
# How a request is concluded

A request ends with a refusal or with a reply that fits what was asked, and with it come the tables,
the counters and the changes that it leaves behind.

* `Entry.Conclusion` has one case for each kind of end, and `Entry.conclusion` says that there are
  no others.
* `FullRun` is a run in which nothing was stored, counted or made known before the first request.
-/

namespace TeamCalendar

/-- How a request that has been carried out was concluded. -/
inductive Entry.Conclusion (entry : Entry) : Prop where
  | refused {refusal : Refusal} (hreply : entry.reply = .error refusal)
    (hrefused : entry.before.Refused refusal entry.after)
  | created {new : NewEvent} {created : CreatedEvent} {roster : List Member}
    {time occurredAt : Instant} (hoperation : entry.visit.operation = .create new)
    (hreply : entry.reply = .ok (.created created))
    (hrows : created.attendanceRows =
      (AttendanceRecord.cohort created.event roster time).length)
    (hwrote : entry.before.Wrote
      { entry.lower.putEvent created.event with
        attendance := entry.lower.attendance ∪ AttendanceRecord.tabulate
          (AttendanceRecord.cohort created.event roster time) }
      (.eventCreated created.attendanceRows)
      { kind := .eventCreated, event := created.event, actorId := entry.requester, occurredAt }
      entry.after)
  | updated {teamId : TeamId} {id : EventId} {patch : Patch} {changed : Event}
    {occurredAt : Instant} (hoperation : entry.visit.operation = .update teamId id patch)
    (hreply : entry.reply = .ok (.updated changed))
    (hpatched : entry.lower.Patched teamId id patch (.ok changed))
    (hwrote : entry.before.Wrote (entry.lower.putEvent changed) .eventUpdated
      { kind := .eventUpdated, event := changed, actorId := entry.requester, occurredAt }
      entry.after)
  | responded {id : EventId} {status : Status} {event : Event} {record : AttendanceRecord}
    {time occurredAt : Instant} (hoperation : entry.visit.operation = .respond id status)
    (hreply : entry.reply = .ok (.responded event))
    (hevent : entry.lower.events[id]? = some event)
    (hrecord : entry.lower.attendance[AttendanceKey.mk id entry.requester]? = some record)
    (hwrote : entry.before.Wrote
      { entry.lower with
        attendance := entry.lower.attendance.insert ⟨id, entry.requester⟩
          { record with status, updatedAt := time } }
      .attendanceResponse
      { kind := .attendanceUpdated, event, actorId := entry.requester,
        attendanceStatus := some status, occurredAt } entry.after)
  | read {id : EventId} {details : EventDetails} (hoperation : entry.visit.operation = .read id)
    (hreply : entry.reply = .ok (.details details))
    (hkept : entry.before.Kept entry.after)
    (hattendees : details.attendance.length ≤ (entry.lower.eventAttendance id).length)
    (htally : entry.after.tally = entry.before.tally.add (.profileMisses
      ((entry.lower.eventAttendance id).length - details.attendance.length)))
  | listed {teamId : TeamId} {events : List Event}
    (hoperation : entry.visit.operation = .list teamId)
    (hreply : entry.reply = .ok (.events events))
    (hkept : entry.before.Kept entry.after)
    (htally : entry.after.tally = entry.before.tally)

/-- Counting that nobody was left out changes nothing. -/
theorem Tally.addMisses_eq (tally : Tally) (misses : Nat) :
    tally.addMisses misses = tally.add (.profileMisses misses) := by
  rw [addMisses]
  split
  · rfl
  · next hnone =>
    have hzero : misses = 0 := by omega
    subst hzero
    simp [add]

theorem Tables.length_attendanceOf (tables : Tables) (id : EventId) :
    (tables.attendanceOf id).length = (tables.eventAttendance id).length :=
  List.length_mergeSort _

namespace Scene

variable {c : Collaborators} {settings : RuntimeSettings} {requester : UserId} {s s' : Scene}

/-- Of the records of an event that is told, those left out have been counted. -/
theorem Reading.told {id : EventId} {details : EventDetails}
    (h : s.Reading c settings requester id (.ok details) s') :
    details.attendance.length ≤ (s.store.committed.eventAttendance id).length ∧
    s'.tally = s.tally.add (.profileMisses
      ((s.store.committed.eventAttendance id).length - details.attendance.length)) := by
  rw [← Tables.length_attendanceOf, ← Tally.addMisses_eq]
  cases h with
  | deserted hevent hgate hrecords hkept htally =>
    rw [hrecords, htally]
    exact ⟨Nat.le_refl _, rfl⟩
  | attended hevent hgate hrecords hprofiles hattendance hkept htally =>
    refine ⟨?_, htally⟩
    rw [hattendance]
    exact List.length_filterMap_le _ _

theorem Reading.refused {id : EventId} {refusal : Refusal}
    (h : s.Reading c settings requester id (.error refusal) s') : s.Refused refusal s' := by
  cases h with
  | missing => exact ⟨⟨rfl, rfl, rfl, rfl⟩, rfl⟩
  | denied hevent hgate => exact (refused_gated hgate).of_note
  | unknown hevent hgate hlost hrefused => exact hrefused

theorem Listing.refused {teamId : TeamId} {refusal : Refusal}
    (h : s.Listing c settings requester teamId (.error refusal) s') : s.Refused refusal s' := by
  cases h with
  | denied hgate => exact refused_gated hgate

theorem Listing.uncounted {teamId : TeamId} {events : List Event}
    (h : s.Listing c settings requester teamId (.ok events) s') : s'.tally = s.tally := by
  cases h with
  | listed hgate => rfl

end Scene

/-- Every request is concluded in one of the ways there are. -/
theorem Entry.conclusion (entry : Entry) : entry.Conclusion := by
  cases hoperation : entry.visit.operation with
  | create new =>
    obtain ⟨result, hreply, hend⟩ := creation hoperation
    cases result with
    | error refusal => exact .refused hreply hend.refused
    | ok created =>
      cases hend with
      | created hvalid hgate hroster hworking hrecords hwrote =>
        subst hrecords
        exact .created hoperation hreply rfl hwrote
  | update teamId id patch =>
    obtain ⟨result, hreply, hend⟩ := update hoperation
    cases result with
    | error refusal => exact .refused hreply hend.refused
    | ok changed =>
      cases hend with
      | changed hgate hpatched hwrote => exact .updated hoperation hreply hpatched hwrote
  | respond id status =>
    obtain ⟨result, hreply, hend⟩ := response hoperation
    cases result with
    | error refusal => exact .refused hreply hend.refused
    | ok event =>
      cases hend with
      | responded hevent hgate hrecord hwrote =>
        exact .responded hoperation hreply hevent hrecord hwrote
  | read id =>
    obtain ⟨result, hreply, hend⟩ := reading hoperation
    cases result with
    | error refusal => exact .refused hreply hend.refused
    | ok details =>
      obtain ⟨hattendees, htally⟩ := hend.told
      exact .read hoperation hreply hend.kept hattendees htally
  | list teamId =>
    obtain ⟨result, hreply, hend⟩ := listing hoperation
    cases result with
    | error refusal => exact .refused hreply hend.refused
    | ok events =>
      exact .listed hoperation hreply hend.kept hend.uncounted

/-! ## Runs from the very beginning -/

/-- Nothing has been stored, counted or made known. -/
structure Scene.Pristine (s : Scene) : Prop extends s.Empty where
  uncounted : s.tally = {}
  silent : s.published = []

/-- A run from a scene on in which nothing had happened. -/
abbrev FullRun : List Entry → Scene → Prop :=
  RunFrom Scene.Pristine

theorem FullRun.run {log : List Entry} {s : Scene} (h : FullRun log s) : Run log s :=
  h.mono fun _ => Scene.Pristine.toEmpty

theorem Sample.fullRun_log : FullRun log change.after :=
  .visit change (.visit response (.visit creation (.start ⟨⟨rfl, rfl⟩, rfl, rfl⟩)))

end TeamCalendar
