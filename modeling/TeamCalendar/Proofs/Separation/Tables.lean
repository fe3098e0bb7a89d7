import TeamCalendar.Proofs.Store.Tidy

/-!
# Tables as one user sees them

Someone who sees some teams only does not see all of the tables.  Of the events of other teams it
can be known that they are there and to which team they belong, and nothing else.

* `Tables.Agree` says that two tables look the same to someone who sees some teams.
* `Tables.Spares` says that nothing has been done to the events of other teams.
* `Tables.Agree.separate_overlay` says that tables still look the same when the same rows have been
  laid over them that may be seen.
-/

namespace TeamCalendar

/-- What is filtered from two tables is the same if it is the same under each key. -/
theorem Table.filter_values_eq {κ ν : Type} [Ord κ] [Std.TransOrd κ] [Std.LawfulEqOrd κ]
    {first second : Table κ ν} {p : ν → Bool}
    (h : ∀ key : κ, (first[key]?).filter p = (second[key]?).filter p) :
    first.values.filter p = second.values.filter p := by
  have hvalues (table : Table κ ν) :
      table.values.filter p = (table.filter fun _ row => p row).toList.map (·.2) := by
    rw [Table.values_eq_map_toList, Std.ExtTreeMap.toList_filter, List.filter_map]
    rfl
  have hfilter : (first.filter fun _ row => p row) = second.filter fun _ row => p row := by
    refine Std.ExtTreeMap.ext_getElem? fun key => ?_
    rw [Std.ExtTreeMap.getElem?_filter', Std.ExtTreeMap.getElem?_filter', h]
  rw [hvalues, hvalues, hfilter]

namespace Tables

/-- The event is there, and belongs to a team that is not seen. -/
def Foreign (tables : Tables) (seen : TeamId → Prop) (id : EventId) : Prop :=
  ∃ event, tables.events[id]? = some event ∧ ¬ seen event.teamId

/-- Two tables have the same events of a team. -/
def SameTeam (first second : Tables) (teamId : TeamId) : Prop :=
  ∀ (id : EventId) (event : Event), event.teamId = teamId →
    (first.events[id]? = some event ↔ second.events[id]? = some event)

/-- Two tables have the same rows about an event. -/
structure SameAt (first second : Tables) (id : EventId) : Prop where
  event : first.events[id]? = second.events[id]?
  attendance : ∀ userId,
    first.attendance[AttendanceKey.mk id userId]? = second.attendance[AttendanceKey.mk id userId]?

/-- Two tables look the same to someone who sees some teams: the same events are there, in the same
teams, and those of the teams that are seen are the same, with the same attendance. -/
structure Agree (seen : TeamId → Prop) (first second : Tables) : Prop where
  teams : ∀ id : EventId,
    (first.events[id]?).map (·.teamId) = (second.events[id]?).map (·.teamId)
  events : ∀ teamId, seen teamId → first.SameTeam second teamId
  attendance : ∀ {id : EventId} {event : Event}, first.events[id]? = some event →
    seen event.teamId → ∀ userId, first.attendance[AttendanceKey.mk id userId]? =
      second.attendance[AttendanceKey.mk id userId]?

/-- Nothing has been done to the events of teams that are not seen. -/
structure Spares (seen : TeamId → Prop) (before after : Tables) : Prop where
  events : ∀ teamId, ¬ seen teamId → before.SameTeam after teamId
  attendance : ∀ {id : EventId} {event : Event}, before.events[id]? = some event →
    ¬ seen event.teamId → ∀ userId, before.attendance[AttendanceKey.mk id userId]? =
      after.attendance[AttendanceKey.mk id userId]?

/-- There are rows about one event only. -/
structure Confined (tables : Tables) (id : EventId) : Prop where
  events : ∀ other : EventId, other ≠ id → tables.events[other]? = none
  attendance : ∀ key : AttendanceKey, key.eventId ≠ id → tables.attendance[key]? = none

/-- There are rows about one event only, which may be seen before and after they are laid over. -/
structure Visible (seen : TeamId → Prop) (tables staged : Tables) (id : EventId) : Prop where
  confined : staged.Confined id
  known : ¬ tables.Foreign seen id
  team : ∀ event, staged.events[id]? = some event → seen event.teamId

variable {seen : TeamId → Prop} {first second before after staged : Tables} {id : EventId}

theorem not_foreign {event : Event} (hevent : first.events[id]? = some event)
    (hseen : seen event.teamId) : ¬ first.Foreign seen id := by
  rintro ⟨other, hother, hunseen⟩
  rw [hevent, Option.some.injEq] at hother
  subst hother
  exact hunseen hseen

theorem SameTeam.symm {teamId : TeamId} (h : first.SameTeam second teamId) :
    second.SameTeam first teamId :=
  fun id event hteam => (h id event hteam).symm

/-- An event that is in a team in one of two tables is in the team in both or the same in both. -/
theorem SameTeam.eq_of_team {teamId : TeamId} (h : first.SameTeam second teamId) {event : Event}
    (hevent : first.events[id]? = some event) (hteam : event.teamId = teamId) :
    second.events[id]? = some event :=
  (h id event hteam).1 hevent

/-- The events of a team are listed alike. -/
theorem SameTeam.teamEvents_eq {teamId : TeamId} (h : first.SameTeam second teamId) :
    first.teamEvents teamId = second.teamEvents teamId := by
  refine congrArg Event.sorted (Table.filter_values_eq fun id => Option.ext fun event => ?_)
  rw [Option.filter_eq_some_iff, Option.filter_eq_some_iff]
  refine and_congr_left fun hteam => ?_
  exact h id event (of_decide_eq_true hteam)

/-- The attendance of an event is listed alike. -/
theorem SameAt.eventAttendance_eq (h : first.SameAt second id) (hfirst : first.Filed)
    (hsecond : second.Filed) : first.eventAttendance id = second.eventAttendance id := by
  refine Table.filter_values_eq fun key => Option.ext fun record => ?_
  rw [Option.filter_eq_some_iff, Option.filter_eq_some_iff]
  refine and_congr_left fun hevent => ?_
  -- the key names the same event as the record
  have hsame (hkey : key.eventId = id) : first.attendance[key]? = second.attendance[key]? := by
    subst hkey
    exact h.attendance key.userId
  have hid (hkey : record.key = key) : key.eventId = id := by
    rw [← hkey]
    exact of_decide_eq_true hevent
  constructor
  · intro hrecord
    rw [← hsame (hid (hfirst key record hrecord))]
    exact hrecord
  · intro hrecord
    rw [hsame (hid (hsecond key record hrecord))]
    exact hrecord

namespace Agree

/-- An event is in neither of the tables, or in both, in one team. -/
theorem cases_event (h : Agree seen first second) (id : EventId) :
    (first.events[id]? = none ∧ second.events[id]? = none) ∨
      ∃ event event', first.events[id]? = some event ∧ second.events[id]? = some event' ∧
        event'.teamId = event.teamId := by
  have hteams := h.teams id
  cases hfirst : first.events[id]? with
  | none =>
    rw [hfirst] at hteams
    exact .inl ⟨rfl, Option.map_eq_none_iff.1 hteams.symm⟩
  | some event =>
    rw [hfirst] at hteams
    obtain ⟨event', hsecond, hteam⟩ := Option.map_eq_some_iff.1 hteams.symm
    exact .inr ⟨event, event', rfl, hsecond, hteam⟩

theorem foreign_iff (h : Agree seen first second) :
    first.Foreign seen id ↔ second.Foreign seen id := by
  rcases h.cases_event id with ⟨hfirst, hsecond⟩ | ⟨event, event', hfirst, hsecond, hteam⟩
  · rw [Foreign, Foreign, hfirst, hsecond]
  · rw [Foreign, Foreign, hfirst, hsecond]
    simp only [Option.some.injEq, exists_eq_left', hteam]

/-- All that is not of teams that are not seen is the same. -/
theorem sameAt (h : Agree seen first second) (hfirst : first.Anchored) (hsecond : second.Anchored)
    (hid : ¬ first.Foreign seen id) : first.SameAt second id := by
  rcases h.cases_event id with ⟨hnone, hnone'⟩ | ⟨event, event', hevent, -, -⟩
  · -- without an event there are no records
    have habsent {tables : Tables} (hanchored : tables.Anchored) (hnone : tables.events[id]? = none)
        (userId : UserId) : tables.attendance[AttendanceKey.mk id userId]? = none := by
      refine Option.eq_none_iff_forall_ne_some.2 fun record hrecord => ?_
      obtain ⟨event, hevent⟩ := hanchored _ _ hrecord
      rw [hnone] at hevent
      cases hevent
    refine ⟨hnone.trans hnone'.symm, fun userId => ?_⟩
    rw [habsent hfirst hnone, habsent hsecond hnone']
  · have hseen : seen event.teamId := by
      by_contra hunseen
      exact hid ⟨event, hevent, hunseen⟩
    refine ⟨?_, h.attendance hevent hseen⟩
    rw [hevent, (h.events _ hseen).eq_of_team hevent rfl]

end Agree

namespace Spares

theorem refl (seen : TeamId → Prop) (tables : Tables) : Spares seen tables tables :=
  ⟨fun _ _ _ _ _ => Iff.rfl, fun _ _ _ => rfl⟩

theorem trans {between : Tables} (h : Spares seen before between)
    (h' : Spares seen between after) : Spares seen before after where
  events teamId hunseen id event hteam :=
    (h.events teamId hunseen id event hteam).trans (h'.events teamId hunseen id event hteam)
  attendance hevent hunseen userId :=
    (h.attendance hevent hunseen userId).trans
      (h'.attendance ((h.events _ hunseen).eq_of_team hevent rfl) hunseen userId)

theorem foreign_iff (h : Spares seen before after) :
    before.Foreign seen id ↔ after.Foreign seen id := by
  constructor
  · rintro ⟨event, hevent, hunseen⟩
    exact ⟨event, (h.events _ hunseen).eq_of_team hevent rfl, hunseen⟩
  · rintro ⟨event, hevent, hunseen⟩
    exact ⟨event, (h.events _ hunseen).symm.eq_of_team hevent rfl, hunseen⟩

end Spares

/-! ## Rows about one event -/

theorem Confined.overlay_events (h : staged.Confined id) {other : EventId} (hother : other ≠ id) :
    (before.overlay staged).events[other]? = before.events[other]? := by
  rw [getElem?_events_overlay, h.events other hother, Option.none_or]

theorem Confined.overlay_attendance (h : staged.Confined id) {other : EventId} (hother : other ≠ id)
    (userId : UserId) : (before.overlay staged).attendance[AttendanceKey.mk other userId]? =
      before.attendance[AttendanceKey.mk other userId]? := by
  rw [getElem?_attendance_overlay, h.attendance _ hother, Option.none_or]

theorem confined_putEvent (event : Event) : Confined (putEvent {} event) event.id where
  events other hother := by
    rw [getElem?_events_putEvent, if_neg (Ne.symm hother)]
    exact Std.ExtTreeMap.getElem?_empty
  attendance _ _ := Std.ExtTreeMap.getElem?_empty

theorem confined_record (id : EventId) (userId : UserId) (record : AttendanceRecord) :
    Confined { attendance := (∅ : Table AttendanceKey AttendanceRecord).insert ⟨id, userId⟩ record }
      id where
  events _ _ := Std.ExtTreeMap.getElem?_empty
  attendance key hkey := by
    have hne : AttendanceKey.mk id userId ≠ key := by
      rintro rfl
      exact hkey rfl
    rw [Table.getElem?_insert, if_neg hne]
    exact Std.ExtTreeMap.getElem?_empty

theorem confined_cohort (event : Event) (roster : List Member) (now : Instant) :
    Confined
      { putEvent {} event with
        attendance := ∅ ∪ AttendanceRecord.tabulate (AttendanceRecord.cohort event roster now) }
      event.id where
  events := (confined_putEvent event).events
  attendance key hkey := by
    rw [AttendanceRecord.getElem?_union_tabulate_cohort, if_neg fun h => hkey h.1]
    exact Std.ExtTreeMap.getElem?_empty

/-- The rows of an event are put in place for a team that is seen. -/
theorem visible_putEvent {event : Event} (hknown : ¬ before.Foreign seen event.id)
    (hseen : seen event.teamId) : Visible seen before (putEvent {} event) event.id where
  confined := confined_putEvent event
  known := hknown
  team stored hstored := by
    rw [getElem?_events_putEvent, if_pos rfl] at hstored
    cases hstored
    exact hseen

theorem visible_cohort {event : Event} (hknown : ¬ before.Foreign seen event.id)
    (hseen : seen event.teamId) (roster : List Member) (now : Instant) :
    Visible seen before
      { putEvent {} event with
        attendance := ∅ ∪ AttendanceRecord.tabulate (AttendanceRecord.cohort event roster now) }
      event.id where
  confined := confined_cohort event roster now
  known := hknown
  team := (visible_putEvent hknown hseen).team

theorem visible_record (hknown : ¬ before.Foreign seen id) (userId : UserId)
    (record : AttendanceRecord) : Visible seen before
      { attendance := (∅ : Table AttendanceKey AttendanceRecord).insert ⟨id, userId⟩ record }
      id where
  confined := confined_record id userId record
  known := hknown
  team stored hstored := by
    rw [Std.ExtTreeMap.getElem?_empty] at hstored
    cases hstored

/-- Rows that may be seen do not concern other teams. -/
theorem Visible.spares (h : Visible seen before staged id) :
    Spares seen before (before.overlay staged) where
  events teamId hunseen other event hteam := by
    by_cases hother : other = id
    · subst hother
      constructor
      · intro hevent
        exact absurd ⟨event, hevent, hteam ▸ hunseen⟩ h.known
      · intro hevent
        rw [getElem?_events_overlay, Option.or_eq_some_iff] at hevent
        rcases hevent with hevent | ⟨-, hevent⟩
        · exact absurd (hteam ▸ h.team event hevent) hunseen
        · exact absurd ⟨event, hevent, hteam ▸ hunseen⟩ h.known
    · rw [h.confined.overlay_events hother]
  attendance := by
    intro other event hevent hunseen userId
    have hother : other ≠ id := by
      rintro rfl
      exact h.known ⟨event, hevent, hunseen⟩
    exact (h.confined.overlay_attendance hother userId).symm

/-- What has been done to tables that look the same: they still do, and other teams have been left
alone. -/
structure Separate (seen : TeamId → Prop) (first second first' second' : Tables) : Prop where
  agree : Agree seen first' second'
  spares : Spares seen first first'
  spares' : Spares seen second second'

theorem Separate.trans {first' second' first'' second'' : Tables}
    (h : Separate seen first second first' second')
    (h' : Separate seen first' second' first'' second'') :
    Separate seen first second first'' second'' where
  agree := h'.agree
  spares := h.spares.trans h'.spares
  spares' := h.spares'.trans h'.spares'

/-- The same rows that may be seen are laid over tables that look the same. -/
theorem Agree.separate_overlay (h : Agree seen first second) (hfirst : first.Anchored)
    (hsecond : second.Anchored) (hvisible : Visible seen first staged id) :
    Separate seen first second (first.overlay staged) (second.overlay staged) := by
  have hsame := h.sameAt hfirst hsecond hvisible.known
  have hconfined := hvisible.confined
  have hvisible' : Visible seen second staged id :=
    ⟨hconfined, fun hforeign => hvisible.known (h.foreign_iff.2 hforeign), hvisible.team⟩
  refine ⟨⟨fun other => ?_, fun teamId hseen other event hteam => ?_, ?_⟩, hvisible.spares,
    hvisible'.spares⟩
  · by_cases hother : other = id
    · subst hother
      rw [getElem?_events_overlay, getElem?_events_overlay, hsame.event]
    · rw [hconfined.overlay_events hother, hconfined.overlay_events hother, h.teams]
  · by_cases hother : other = id
    · subst hother
      rw [getElem?_events_overlay, getElem?_events_overlay, hsame.event]
    · rw [hconfined.overlay_events hother, hconfined.overlay_events hother]
      exact h.events teamId hseen other event hteam
  · intro other event hevent hseen userId
    by_cases hother : other = id
    · subst hother
      rw [getElem?_attendance_overlay, getElem?_attendance_overlay, hsame.attendance]
    · rw [hconfined.overlay_events hother] at hevent
      rw [hconfined.overlay_attendance hother, hconfined.overlay_attendance hother]
      exact h.attendance hevent hseen userId

/-- What has become of two tables: they are as before, or the same rows that may be seen have been
laid over both. -/
inductive Moved (seen : TeamId → Prop) (first second : Tables) : Tables → Tables → Prop where
  | still : Moved seen first second first second
  | overlay {staged : Tables} {id : EventId} (hvisible : Visible seen first staged id) :
    Moved seen first second (first.overlay staged) (second.overlay staged)

theorem Moved.separate {first' second' : Tables} (h : Moved seen first second first' second')
    (hagree : Agree seen first second) (hfirst : first.Anchored) (hsecond : second.Anchored) :
    Separate seen first second first' second' := by
  cases h with
  | still => exact ⟨hagree, .refl _ _, .refl _ _⟩
  | overlay hvisible => exact hagree.separate_overlay hfirst hsecond hvisible

end Tables

end TeamCalendar
