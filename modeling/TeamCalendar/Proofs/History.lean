import TeamCalendar.Proofs.Soundness

/-!
# The tables are the history of the requests

What is stored can be told from the log of the requests alone: an event is what it was when it was
created, overlaid in order by the patches of the updates that succeeded, and the status of a user is
that of the user's last response.

* `History.event?` and `History.status?` read events and statuses off a log.
* `Run.toldBy` says that the tables at the end of a run are what the log says.
* `Recounts` spells out what this means for those who know the requests and their answers.
-/

namespace TeamCalendar

namespace Entry

/-- The event that the request has created, if it has the given identifier. -/
def creation? (entry : Entry) (id : EventId) : Option Event :=
  match entry.reply with
  | .ok (.created created) => if created.event.id = id then some created.event else none
  | _ => none

/-- The patch by which the request has changed an event. -/
def patch? (entry : Entry) (id : EventId) : Option Patch :=
  match entry.visit.operation, entry.reply with
  | .update _ target patch, .ok _ => if target = id then some patch else none
  | _, _ => none

/-- The response of a user to an event that the request has recorded. -/
def response? (entry : Entry) (key : AttendanceKey) : Option Status :=
  match entry.visit.operation, entry.reply with
  | .respond id status, .ok _ =>
    if AttendanceKey.mk id entry.requester = key then some status else none
  | _, _ => none

/-- The users on the roster that the request has read for a team. -/
def rosterUsers (entry : Entry) (teamId : TeamId) : List UserId :=
  match (entry.collaborators.roster teamId).value with
  | .ok roster => roster.map (·.userId)
  | .error _ => []

end Entry

namespace History

/-- The request that has created an event, and the event as it was then. -/
def origin? (log : List Entry) (id : EventId) : Option (Entry × Event) :=
  log.findSome? fun entry => (entry.creation? id).map (entry, ·)

/-- The patches by which an event has been changed, the first one first. -/
def patches (log : List Entry) (id : EventId) : List Patch :=
  (log.filterMap (·.patch? id)).reverse

/-- The last response of a user to an event. -/
def lastResponse? (log : List Entry) (key : AttendanceKey) : Option Status :=
  log.findSome? (·.response? key)

/-- An event with some changes made to it in order. -/
def overlaid (event : Event) (patches : List Patch) : Event :=
  patches.foldl (fun event patch => patch.overlay event) event

/-- The event that a log tells of. -/
def event? (log : List Entry) (id : EventId) : Option Event :=
  (origin? log id).map fun origin => overlaid origin.2 (patches log id)

/-- The status of a user for an event that a log tells of. -/
def status? (log : List Entry) (key : AttendanceKey) : Option Status :=
  (origin? log key.eventId).bind fun origin =>
    if (origin.1.rosterUsers origin.2.teamId).contains key.userId then
      some ((lastResponse? log key).getD .pending)
    else none

variable {log : List Entry} {entry : Entry} {id : EventId} {key : AttendanceKey}

theorem origin?_cons :
    origin? (entry :: log) id = ((entry.creation? id).map (entry, ·)).or (origin? log id) := by
  rw [origin?, List.findSome?_cons]
  cases entry.creation? id <;> rfl

theorem patches_cons : patches (entry :: log) id = patches log id ++ (entry.patch? id).toList := by
  rw [patches, List.filterMap_cons]
  cases entry.patch? id <;> simp [patches]

theorem lastResponse?_cons :
    lastResponse? (entry :: log) key = (entry.response? key).or (lastResponse? log key) := by
  rw [lastResponse?, List.findSome?_cons]
  cases entry.response? key <;> rfl

theorem overlaid_append (event : Event) (patches more : List Patch) :
    overlaid event (patches ++ more) = overlaid (overlaid event patches) more :=
  List.foldl_append

/-- Changes leave alone whose event it is and of which type. -/
theorem overlaid_fixed (event : Event) (patches : List Patch) :
    (overlaid event patches).id = event.id ∧ (overlaid event patches).teamId = event.teamId ∧
      (overlaid event patches).eventType = event.eventType := by
  induction patches generalizing event with
  | nil => exact ⟨rfl, rfl, rfl⟩
  | cons patch patches ih => exact ih (patch.overlay event)

/-- A request that creates nothing and changes nothing of an event tells nothing new of it. -/
theorem event?_cons_of_none (hcreation : entry.creation? id = none)
    (hpatch : entry.patch? id = none) : event? (entry :: log) id = event? log id := by
  rw [event?, event?, origin?_cons, patches_cons, hcreation, hpatch]
  simp

theorem status?_cons_of_none (hcreation : entry.creation? key.eventId = none)
    (hresponse : entry.response? key = none) : status? (entry :: log) key = status? log key := by
  rw [status?, status?, origin?_cons, lastResponse?_cons, hcreation, hresponse]
  simp

/-- An update tells that the event has been overlaid once more. -/
theorem event?_cons_of_patch (hcreation : entry.creation? id = none) {patch : Patch}
    (hpatch : entry.patch? id = some patch) :
    event? (entry :: log) id = (event? log id).map patch.overlay := by
  rw [event?, event?, origin?_cons, patches_cons, hcreation, hpatch, Option.map_map]
  simp only [Option.map_none, Option.none_or, Option.toList_some, overlaid_append]
  rfl

/-- A response tells the status of its user, if the user was on the roster. -/
theorem status?_cons_of_response (hcreation : entry.creation? key.eventId = none) {status : Status}
    (hresponse : entry.response? key = some status) :
    status? (entry :: log) key = (status? log key).map fun _ => status := by
  rw [status?, status?, origin?_cons, lastResponse?_cons, hcreation, hresponse]
  cases origin? log key.eventId with
  | none => rfl
  | some origin =>
    simp only [Option.map_none, Option.none_or, Option.bind_some, Option.some_or,
      Option.getD_some]
    split <;> rfl

/-- An event is told of exactly if its creation is. -/
theorem event?_eq_none_iff : event? log id = none ↔ origin? log id = none := by
  rw [event?, Option.map_eq_none_iff]

/-- The creation of an event that is told was answered so. -/
theorem exists_created_of_origin? {origin : Entry × Event} (h : origin? log id = some origin) :
    ∃ entry ∈ log, ∃ created, entry.reply = .ok (.created created) ∧ created.event.id = id := by
  obtain ⟨entry, hentry, hcreation⟩ := List.exists_of_findSome?_eq_some h
  obtain ⟨event, hevent, -⟩ := Option.map_eq_some_iff.1 hcreation
  refine ⟨entry, hentry, ?_⟩
  unfold Entry.creation? at hevent
  split at hevent
  · next created hreply =>
    split at hevent
    · next hid => exact ⟨created, hreply, hid⟩
    · cases hevent
  · cases hevent

end History

/-! ## What an entry adds to the log -/

namespace Entry

variable {entry : Entry}

theorem creation?_eq_none (h : ∀ created, entry.reply ≠ .ok (.created created)) (id : EventId) :
    entry.creation? id = none := by
  unfold creation?
  split
  · next created hreply => exact absurd hreply (h created)
  · rfl

theorem Idle.reply_ne_created (h : entry.Idle) (created : CreatedEvent) :
    entry.reply ≠ .ok (.created created) := by
  intro hcreated
  cases h with
  | refused hreply =>
    rw [hreply] at hcreated
    cases hcreated
  | read hoperation hreply =>
    rw [hreply] at hcreated
    cases hcreated
  | listed hoperation hreply =>
    rw [hreply] at hcreated
    cases hcreated

theorem Idle.patch?_eq_none (h : entry.Idle) (id : EventId) : entry.patch? id = none := by
  cases h with
  | refused hreply =>
    rw [patch?, hreply]
    cases entry.visit.operation <;> rfl
  | read hoperation hreply => rw [patch?, hoperation]
  | listed hoperation hreply => rw [patch?, hoperation]

theorem Idle.response?_eq_none (h : entry.Idle) (key : AttendanceKey) :
    entry.response? key = none := by
  cases h with
  | refused hreply =>
    rw [response?, hreply]
    cases entry.visit.operation <;> rfl
  | read hoperation hreply => rw [response?, hoperation]
  | listed hoperation hreply => rw [response?, hoperation]

theorem creation?_of_reply {created : CreatedEvent} (hreply : entry.reply = .ok (.created created))
    (id : EventId) :
    entry.creation? id = if created.event.id = id then some created.event else none := by
  rw [creation?, hreply]

section Create

variable {new : NewEvent}

theorem patch?_of_create (hoperation : entry.visit.operation = .create new) (id : EventId) :
    entry.patch? id = none := by
  rw [patch?, hoperation]

theorem response?_of_create (hoperation : entry.visit.operation = .create new)
    (key : AttendanceKey) : entry.response? key = none := by
  rw [response?, hoperation]

end Create

end Entry

namespace History

section Create

variable {log : List Entry} {entry : Entry} {new : NewEvent} {created : CreatedEvent}

theorem origin?_cons_self (hreply : entry.reply = .ok (.created created)) :
    origin? (entry :: log) created.event.id = some (entry, created.event) := by
  rw [origin?_cons, Entry.creation?_of_reply hreply, if_pos rfl]
  rfl

theorem origin?_cons_of_ne (hreply : entry.reply = .ok (.created created)) {id : EventId}
    (hne : created.event.id ≠ id) : origin? (entry :: log) id = origin? log id := by
  rw [origin?_cons, Entry.creation?_of_reply hreply, if_neg hne]
  rfl

theorem patches_cons_of_create (hoperation : entry.visit.operation = .create new) (id : EventId) :
    patches (entry :: log) id = patches log id := by
  rw [patches_cons, Entry.patch?_of_create hoperation, Option.toList_none, List.append_nil]

theorem lastResponse?_cons_of_create (hoperation : entry.visit.operation = .create new)
    (key : AttendanceKey) : lastResponse? (entry :: log) key = lastResponse? log key := by
  rw [lastResponse?_cons, Entry.response?_of_create hoperation, Option.none_or]

/-- A creation tells of the event as it was created, if no changes were told before. -/
theorem event?_cons_self (hoperation : entry.visit.operation = .create new)
    (hreply : entry.reply = .ok (.created created))
    (hpatches : patches log created.event.id = []) :
    event? (entry :: log) created.event.id = some created.event := by
  rw [event?, origin?_cons_self hreply, patches_cons_of_create hoperation, hpatches]
  rfl

/-- A creation tells that the users on the roster have not responded, if no responses were told
before. -/
theorem status?_cons_self (hoperation : entry.visit.operation = .create new)
    (hreply : entry.reply = .ok (.created created)) {roster : List Member}
    (hroster : (entry.collaborators.roster created.event.teamId).value = .ok roster)
    {userId : UserId} (hlast : lastResponse? log ⟨created.event.id, userId⟩ = none) :
    status? (entry :: log) ⟨created.event.id, userId⟩ =
      if userId ∈ roster.map (·.userId) then some .pending else none := by
  rw [status?, origin?_cons_self hreply, lastResponse?_cons_of_create hoperation, hlast,
    Option.bind_some, Entry.rosterUsers, hroster]
  simp only [List.contains_iff_mem]
  rfl

end Create

end History

/-! ## The tables follow the log -/

open History

/-- The tables are what the log tells, and the log tells nothing of events that it does not know the
creation of. -/
structure Tables.ToldBy (tables : Tables) (log : List Entry) : Prop where
  events : ∀ id : EventId, tables.events[id]? = event? log id
  statuses : ∀ key : AttendanceKey,
    (tables.attendance[key]?).map (·.status) = status? log key
  patched : ∀ id, origin? log id = none → patches log id = []
  responded : ∀ key, origin? log key.eventId = none → lastResponse? log key = none
  origins : ∀ entry ∈ log, ∀ created, entry.reply = .ok (.created created) →
    origin? log created.event.id = some (entry, created.event)

namespace Tables

theorem toldBy_nil : ToldBy {} [] := by
  refine ⟨?_, ?_, fun _ _ => rfl, fun _ _ => rfl, fun _ hentry => nomatch hentry⟩
  · intro id
    rw [Std.ExtTreeMap.getElem?_empty]
    rfl
  · intro key
    rw [Std.ExtTreeMap.getElem?_empty]
    rfl

variable {tables : Tables} {log : List Entry} {entry : Entry}

/-- Records are told of events only whose creation is told. -/
theorem ToldBy.origin?_ne_none (h : tables.ToldBy log) {key : AttendanceKey}
    (hrecord : tables.attendance[key]? ≠ none) : origin? log key.eventId ≠ none := by
  intro hnone
  have hstatus := h.statuses key
  rw [status?, hnone] at hstatus
  exact hrecord (Option.map_eq_none_iff.1 hstatus)

/-- A request that creates nothing changes nothing but what has been created. -/
theorem ToldBy.cons (h : entry.lower.ToldBy log)
    (hreply : ∀ created, entry.reply ≠ .ok (.created created))
    (hpatch : ∀ id patch, entry.patch? id = some patch → entry.lower.events[id]? ≠ none)
    (hresponse : ∀ key status, entry.response? key = some status →
      entry.lower.attendance[key]? ≠ none)
    (hevents : ∀ id : EventId, tables.events[id]? = event? (entry :: log) id)
    (hstatuses : ∀ key : AttendanceKey,
      (tables.attendance[key]?).map (·.status) = status? (entry :: log) key) :
    tables.ToldBy (entry :: log) := by
  have horigin (id : EventId) : origin? (entry :: log) id = origin? log id := by
    rw [origin?_cons, Entry.creation?_eq_none hreply]
    rfl
  refine ⟨hevents, hstatuses, ?_, ?_, ?_⟩
  · intro id hnone
    rw [horigin] at hnone
    rw [patches_cons, h.patched id hnone]
    cases hsome : entry.patch? id with
    | none => rfl
    | some patch =>
      have hstored := hpatch id patch hsome
      rw [h.events, ne_eq, event?_eq_none_iff] at hstored
      exact absurd hnone hstored
  · intro key hnone
    rw [horigin] at hnone
    rw [lastResponse?_cons, h.responded key hnone]
    cases hsome : entry.response? key with
    | none => rfl
    | some status => exact absurd hnone (h.origin?_ne_none (hresponse key status hsome))
  · intro other hother created hcreated
    rw [horigin]
    rcases List.mem_cons.1 hother with rfl | hother
    · exact absurd hcreated (hreply created)
    · exact h.origins other hother created hcreated

/-- A request that writes nothing tells nothing new. -/
theorem ToldBy.idle (h : entry.lower.ToldBy log) (hidle : entry.Idle) :
    entry.lower.ToldBy (entry :: log) := by
  have hcreation := Entry.creation?_eq_none hidle.reply_ne_created
  refine h.cons hidle.reply_ne_created ?_ ?_ ?_ ?_
  · intro id patch hpatch
    rw [hidle.patch?_eq_none] at hpatch
    cases hpatch
  · intro key status hresponse
    rw [hidle.response?_eq_none] at hresponse
    cases hresponse
  · intro id
    rw [h.events, event?_cons_of_none (hcreation id) (hidle.patch?_eq_none id)]
  · intro key
    rw [h.statuses, status?_cons_of_none (hcreation _) (hidle.response?_eq_none key)]

/-- An update tells of one more patch of an event. -/
theorem ToldBy.updated (h : entry.lower.ToldBy log) {teamId : TeamId} {id : EventId} {patch : Patch}
    {current changed : Event} (hoperation : entry.visit.operation = .update teamId id patch)
    (hreply : entry.reply = .ok (.updated changed))
    (hcurrent : entry.lower.events[id]? = some current) (hid : current.id = id) :
    (entry.lower.putEvent (patch.overlay current)).ToldBy (entry :: log) := by
  have hother : ∀ created, entry.reply ≠ .ok (.created created) := by
    intro created hcreated
    rw [hreply] at hcreated
    cases hcreated
  have hcreation := Entry.creation?_eq_none hother
  have hpatch (target : EventId) :
      entry.patch? target = if id = target then some patch else none := by
    rw [Entry.patch?, hoperation, hreply]
  have hresponse (key : AttendanceKey) : entry.response? key = none := by
    rw [Entry.response?, hoperation]
  refine h.cons hother ?_ ?_ ?_ ?_
  · intro target other hsome
    rw [hpatch] at hsome
    split at hsome
    · next htarget =>
      rw [← htarget, hcurrent]
      exact Option.some_ne_none current
    · cases hsome
  · intro key status hsome
    rw [hresponse] at hsome
    cases hsome
  · intro target
    rw [getElem?_events_putEvent, Patch.id_overlay, hid]
    split
    · next htarget =>
      subst htarget
      rw [event?_cons_of_patch (hcreation id) ((hpatch id).trans (if_pos rfl)), ← h.events,
        hcurrent]
      rfl
    · next htarget =>
      rw [h.events, event?_cons_of_none (hcreation target) ((hpatch target).trans (if_neg htarget))]
  · intro key
    rw [attendance_putEvent, h.statuses, status?_cons_of_none (hcreation _) (hresponse key)]

/-- A response tells the status of one user for one event. -/
theorem ToldBy.responded_cons (h : entry.lower.ToldBy log) {id : EventId} {status : Status}
    {event : Event} {record : AttendanceRecord} {time : Instant}
    (hoperation : entry.visit.operation = .respond id status)
    (hreply : entry.reply = .ok (.responded event))
    (hrecord : entry.lower.attendance[AttendanceKey.mk id entry.requester]? = some record) :
    ToldBy
      { entry.lower with
        attendance := entry.lower.attendance.insert ⟨id, entry.requester⟩
          { record with status, updatedAt := time } } (entry :: log) := by
  have hother : ∀ created, entry.reply ≠ .ok (.created created) := by
    intro created hcreated
    rw [hreply] at hcreated
    cases hcreated
  have hcreation := Entry.creation?_eq_none hother
  have hpatch (target : EventId) : entry.patch? target = none := by
    rw [Entry.patch?, hoperation]
  have hresponse (key : AttendanceKey) : entry.response? key =
      if AttendanceKey.mk id entry.requester = key then some status else none := by
    rw [Entry.response?, hoperation, hreply]
  refine h.cons hother ?_ ?_ ?_ ?_
  · intro target patch hsome
    rw [hpatch] at hsome
    cases hsome
  · intro key other hsome
    rw [hresponse] at hsome
    split at hsome
    · next hkey =>
      rw [← hkey, hrecord]
      exact Option.some_ne_none record
    · cases hsome
  · intro target
    rw [h.events, event?_cons_of_none (hcreation target) (hpatch target)]
  · intro key
    rw [Table.getElem?_insert]
    split
    · next hkey =>
      rw [status?_cons_of_response (hcreation _) ((hresponse key).trans (if_pos hkey)),
        ← h.statuses, ← hkey, hrecord]
      rfl
    · next hkey =>
      rw [h.statuses,
        status?_cons_of_none (hcreation _) ((hresponse key).trans (if_neg hkey))]

/-- A creation tells of a new event, and of the users on its roster, who have not responded. -/
theorem ToldBy.created (h : entry.lower.ToldBy log) {new : NewEvent} {created : CreatedEvent}
    {roster : List Member} {time : Instant}
    (hoperation : entry.visit.operation = .create new)
    (hreply : entry.reply = .ok (.created created))
    (hroster : (entry.collaborators.roster created.event.teamId).value = .ok roster)
    (hfresh : entry.lower.events[created.event.id]? = none) :
    ToldBy
      { entry.lower.putEvent created.event with
        attendance := entry.lower.attendance ∪ AttendanceRecord.tabulate
          (AttendanceRecord.cohort created.event roster time) } (entry :: log) := by
  have hnone : origin? log created.event.id = none := by
    rw [← event?_eq_none_iff, ← h.events, hfresh]
  refine ⟨?_, ?_, ?_, ?_, ?_⟩
  · intro id
    rw [getElem?_events_putEvent]
    split
    · next hid =>
      subst hid
      rw [event?_cons_self hoperation hreply (h.patched _ hnone)]
    · next hid =>
      have hcreation := (Entry.creation?_of_reply hreply id).trans (if_neg hid)
      rw [h.events, event?_cons_of_none hcreation (Entry.patch?_of_create hoperation id)]
  · rintro ⟨eventId, userId⟩
    rw [AttendanceRecord.getElem?_union_tabulate_cohort]
    by_cases hevent : eventId = created.event.id
    · subst hevent
      -- nobody can have responded to an event before it was created
      have hlast := h.responded ⟨created.event.id, userId⟩ hnone
      rw [status?_cons_self hoperation hreply hroster hlast]
      by_cases huser : userId ∈ roster.map (·.userId)
      · rw [if_pos ⟨rfl, huser⟩, if_pos huser]
        rfl
      · rw [if_neg (fun hboth => huser hboth.2), if_neg huser, h.statuses, status?, hnone]
        rfl
    · have hcreation := (Entry.creation?_of_reply hreply eventId).trans (if_neg (Ne.symm hevent))
      rw [if_neg (fun hboth => hevent hboth.1), h.statuses,
        status?_cons_of_none hcreation (Entry.response?_of_create hoperation _)]
  · intro id hidNone
    by_cases hid : created.event.id = id
    · rw [← hid, origin?_cons_self hreply] at hidNone
      cases hidNone
    · rw [origin?_cons_of_ne hreply hid] at hidNone
      rw [patches_cons_of_create hoperation, h.patched id hidNone]
  · intro key hkeyNone
    by_cases hid : created.event.id = key.eventId
    · rw [← hid, origin?_cons_self hreply] at hkeyNone
      cases hkeyNone
    · rw [origin?_cons_of_ne hreply hid] at hkeyNone
      rw [lastResponse?_cons_of_create hoperation, h.responded key hkeyNone]
  · intro other hother otherCreated hcreated
    rcases List.mem_cons.1 hother with rfl | hother
    · rw [hreply] at hcreated
      cases hcreated
      exact origin?_cons_self hreply
    · have hknown := h.origins other hother otherCreated hcreated
      -- the older event has another identifier, for that of the new one was not in use
      have hne : created.event.id ≠ otherCreated.event.id := by
        intro heq
        rw [← heq, hnone] at hknown
        cases hknown
      rw [origin?_cons_of_ne hreply hne, hknown]

end Tables

/-- What a request does to the tables is what its entry tells. -/
theorem Entry.Effect.toldBy {entry : Entry} {tables : Tables} {log : List Entry}
    (heffect : entry.Effect tables) (hfresh : entry.Fresh) (hkeyed : entry.lower.Sound)
    (h : entry.lower.ToldBy log) : tables.ToldBy (entry :: log) := by
  cases heffect with
  | none hidle => exact h.idle hidle
  | created hoperation hvalid hroster hreply =>
    refine h.created hoperation hreply ?_ (hfresh _ hreply)
    rw [Store.teamId_newEvent, NewEvent.teamId_normalized]
    exact hroster.2
  | updated hoperation hpatched hreply =>
    cases hpatched with
    | changed hcurrent hteam hchanged =>
      obtain ⟨-, -, -, rfl⟩ := Patch.apply_eq_ok_iff.1 hchanged
      exact h.updated hoperation hreply hcurrent (hkeyed.keyed _ _ hcurrent)
  | responded hoperation hevent hrecord hreply => exact h.responded_cons hoperation hreply hrecord

namespace Entry

variable {entry : Entry} {tables : Tables}

/-- A request whose answer is a created event was one to create it, and it has read the roster. -/
theorem Effect.exists_new (heffect : entry.Effect tables) {created : CreatedEvent}
    (hreply : entry.reply = .ok (.created created)) :
    ∃ new roster, entry.visit.operation = .create new ∧
      created.event = entry.before.store.newEvent new.normalized ∧
      (entry.collaborators.roster created.event.teamId).Gives entry.settings.deadline roster := by
  cases heffect with
  | none hidle => exact absurd hreply (hidle.reply_ne_created created)
  | @created new roster _ _ hoperation hvalid hroster hcreated =>
    rw [hreply] at hcreated
    cases hcreated
    refine ⟨new, roster, hoperation, rfl, ?_⟩
    rw [Store.teamId_newEvent, NewEvent.teamId_normalized]
    exact hroster
  | updated hoperation hpatched hupdated =>
    rw [hreply] at hupdated
    cases hupdated
  | responded hoperation hevent hrecord hresponded =>
    rw [hreply] at hresponded
    cases hresponded

/-- Requests that are refused, and those that read, leave the tables alone. -/
theorem Effect.eq_lower (heffect : entry.Effect tables)
    (h : (∃ refusal, entry.reply = .error refusal) ∨ (∃ id, entry.visit.operation = .read id) ∨
      ∃ teamId, entry.visit.operation = .list teamId) : tables = entry.lower := by
  cases heffect with
  | none hidle => rfl
  | created hoperation hvalid hroster hreply => simp [hoperation, hreply] at h
  | updated hoperation hpatched hreply => simp [hoperation, hreply] at h
  | responded hoperation hevent hrecord hreply => simp [hoperation, hreply] at h

/-- What a request to read an event has told. -/
theorem shown {id : EventId} {details : EventDetails}
    (hoperation : entry.visit.operation = .read id)
    (hreply : entry.reply = .ok (.details details)) :
    entry.lower.events[id]? = some details.event ∧
    ∃ profiles, (AttendanceRecord.userIds (entry.lower.attendanceOf id) = [] ∨
        (entry.collaborators.profiles (AttendanceRecord.userIds
          (entry.lower.attendanceOf id))).Gives entry.settings.deadline profiles) ∧
      details.attendance = (entry.lower.attendanceOf id).filterMap (·.attendee? profiles) := by
  obtain ⟨result, hresult, hreading⟩ := reading hoperation
  rw [hreply] at hresult
  cases result with
  | error refusal => cases hresult
  | ok told =>
    cases hresult
    exact hreading.shown

end Entry

namespace Run

variable {log : List Entry} {s : Scene}

/-- The tables at the end of a run are what its log tells. -/
theorem toldBy (hrun : Run log s) (hfresh : ∀ entry ∈ log, entry.Fresh) :
    s.store.committed.ToldBy log := by
  refine (hrun.invariant (I := fun log tables => (∀ entry ∈ log, entry.Fresh) →
    tables.Sound ∧ tables.ToldBy log) (fun _ => ⟨Tables.sound_empty, Tables.toldBy_nil⟩)
    ?_ hfresh).2
  intro log entry h heffect hall
  rw [List.forall_mem_cons] at hall
  obtain ⟨hsound, htold⟩ := h hall.2
  exact ⟨heffect.sound hall.1 hsound, heffect.toldBy hall.1 hsound htold⟩

end Run

/-! ## What can be told from requests and answers -/

/-- What the requests of a log and the answers to them say of the scene that they lead to. -/
structure Recounts (log : List Entry) (s : Scene) : Prop where
  /-- An event is stored exactly if a request has created it. -/
  stored : ∀ id : EventId, (∃ event, s.store.committed.events[id]? = some event) ↔
    ∃ entry ∈ log, ∃ created, entry.reply = .ok (.created created) ∧ created.event.id = id
  /-- The event that a request has created is the normalized new one.  It is stored as it was
  created, overlaid in order by the patches of the updates that succeeded, which leave its
  identifier, its team and its type alone. -/
  content : ∀ entry ∈ log, ∀ created, entry.reply = .ok (.created created) →
    ∃ new event, entry.visit.operation = .create new ∧
      created.event = { new.normalized with id := created.event.id } ∧
      s.store.committed.events[created.event.id]? = some event ∧
      event = overlaid created.event (patches log created.event.id) ∧
      event.id = created.event.id ∧ event.teamId = created.event.teamId ∧
      event.eventType = created.event.eventType
  /-- The users on the roster that was read when the event was created, and nobody else, have a
  status for it: that of their last response, or pending. -/
  cohort : ∀ entry ∈ log, ∀ created, entry.reply = .ok (.created created) →
    ∃ roster,
      (entry.collaborators.roster created.event.teamId).Gives entry.settings.deadline roster ∧
      ∀ userId,
        (s.store.committed.attendance[AttendanceKey.mk created.event.id userId]?).map (·.status) =
          if userId ∈ roster.map (·.userId) then
            some ((lastResponse? log ⟨created.event.id, userId⟩).getD .pending)
          else none
  /-- There are no records for anything else. -/
  anchored : ∀ (key : AttendanceKey) (record : AttendanceRecord),
    s.store.committed.attendance[key]? = some record →
    ∃ entry ∈ log, ∃ created, entry.reply = .ok (.created created) ∧
      created.event.id = key.eventId
  /-- Requests that are refused, and those that read, leave the tables alone. -/
  idle : ∀ entry ∈ log,
    ((∃ refusal, entry.reply = .error refusal) ∨ (∃ id, entry.visit.operation = .read id) ∨
      ∃ teamId, entry.visit.operation = .list teamId) → entry.upper = entry.lower
  /-- A request that now reads an event, and is not refused, tells just that event, and each user
  with a status for it whose profile is known, once and with that status. -/
  read : ∀ entry : Entry, entry.before = s → ∀ id details, entry.visit.operation = .read id →
    entry.reply = .ok (.details details) →
    s.store.committed.events[id]? = some details.event ∧
    (details.attendance.map (·.userId)).Nodup ∧
    ∃ userIds profiles,
      (∀ userId, userId ∈ userIds ↔
        ∃ record, s.store.committed.attendance[AttendanceKey.mk id userId]? = some record) ∧
      (userIds = [] ∨
        (entry.collaborators.profiles userIds).Gives entry.settings.deadline profiles) ∧
      ∀ attendee, attendee ∈ details.attendance ↔
        profiles[attendee.userId]? = some attendee.profile ∧
        (s.store.committed.attendance[AttendanceKey.mk id attendee.userId]?).map (·.status) =
          some attendee.status

/-- Whatever requests are carried out, in any order and among any collaborators, the store is the
history of those that succeeded, and reading shows it. -/
theorem Run.recounts {log : List Entry} {s : Scene} (hrun : Run log s)
    (hfresh : ∀ entry ∈ log, entry.Fresh) : Recounts log s := by
  have htold := hrun.toldBy hfresh
  have hsound := hrun.sound hfresh
  refine ⟨?_, ?_, ?_, ?_, ?_, ?_⟩
  · intro id
    rw [htold.events, event?]
    constructor
    · rintro ⟨event, hevent⟩
      obtain ⟨origin, horigin, -⟩ := Option.map_eq_some_iff.1 hevent
      exact exists_created_of_origin? horigin
    · rintro ⟨entry, hentry, created, hreply, rfl⟩
      rw [htold.origins entry hentry created hreply]
      exact ⟨_, rfl⟩
  · intro entry hentry created hreply
    obtain ⟨new, roster, hoperation, hevent, -⟩ := entry.effect.exists_new hreply
    obtain ⟨hid, hteam, htype⟩ := overlaid_fixed created.event (patches log created.event.id)
    refine ⟨new, _, hoperation, ?_, ?_, rfl, hid, hteam, htype⟩
    · rw [hevent]
      rfl
    · rw [htold.events, event?, htold.origins entry hentry created hreply]
      rfl
  · intro entry hentry created hreply
    obtain ⟨new, roster, -, -, hroster⟩ := entry.effect.exists_new hreply
    refine ⟨roster, hroster, ?_⟩
    intro userId
    have husers : entry.rosterUsers created.event.teamId = roster.map (·.userId) := by
      rw [Entry.rosterUsers, hroster.2]
    rw [htold.statuses, status?, htold.origins entry hentry created hreply, Option.bind_some,
      husers]
    simp only [List.contains_iff_mem]
  · intro key record hrecord
    have hstored : s.store.committed.attendance[key]? ≠ none := by
      rw [hrecord]
      exact Option.some_ne_none record
    obtain ⟨origin, horigin⟩ := Option.ne_none_iff_exists'.1 (htold.origin?_ne_none hstored)
    exact exists_created_of_origin? horigin
  · intro entry hentry hidle
    exact entry.effect.eq_lower hidle
  · rintro entry rfl id details hoperation hreply
    obtain ⟨hevent, profiles, hprofiles, hattendance⟩ := Entry.shown hoperation hreply
    rw [hattendance]
    exact ⟨hevent, Tables.nodup_filterMap_attendee? hsound.filed id profiles, _, profiles,
      fun userId => Tables.mem_userIds_attendanceOf hsound.filed, hprofiles,
      fun attendee => Tables.mem_filterMap_attendee? hsound.filed⟩

/-- The event has the start that the coach has moved it to, and the player has accepted. -/
theorem Run.recounts_sample :
    Recounts Sample.log Sample.change.after ∧
    patches Sample.log Sample.trainingId = [{ startTime := some ⟨1800, 5, by decide⟩ }] ∧
    (∃ event, Sample.change.upper.events[Sample.trainingId]? = some event ∧
      event.startTime.second = 1800 ∧ event.startTime.nano = 0) ∧
    (Sample.change.upper.attendance[AttendanceKey.mk Sample.trainingId Sample.player]?).map
      (·.status) = some .accepted ∧
    (Sample.change.upper.attendance[AttendanceKey.mk Sample.trainingId Sample.coach]?).map
      (·.status) = some .pending :=
  ⟨Run.recounts Sample.run_log Sample.fresh_log, rfl, ⟨_, rfl, rfl, rfl⟩, rfl, rfl⟩

end TeamCalendar
