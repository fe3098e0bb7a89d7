import TeamCalendar.Proofs.Scene.Creation
import TeamCalendar.Proofs.Scene.Reading
import TeamCalendar.Proofs.Scene.Response
import TeamCalendar.Proofs.Scene.Update
import TeamCalendar.Proofs.Separation.Twins

/-!
# The requests in two scenes

Each request comes to the same end in two scenes whose tables look the same to the requester.

* `Scene.twins_updateEvent` and `Scene.twins_teamEvents` need no more than that the tables have the
  same events of the team that is named.
* `Scene.twins_createEvent`, `Scene.twins_respond` and `Scene.twins_eventDetails` are about tables
  that look the same to someone who sees the teams in which the requester has a role.
* `Scene.twins_service` and `Scene.twins_service_of_team` put them together.
-/

namespace TeamCalendar

/-- The team that an operation names. -/
def Operation.named? : Operation → Option TeamId
  | update teamId _ _ | list teamId => some teamId
  | create _ | respond .. | read _ => none

/-- Records go into a batch alike if the same is known of their events and of their keys. -/
theorem Transaction.batch_congr {tx tx' : Transaction} {records : List AttendanceRecord}
    (h : ∀ record ∈ records, tx.event? record.eventId = tx'.event? record.eventId ∧
      tx.attendance? record.key = tx'.attendance? record.key) :
    tx.batch records = tx'.batch records := by
  rw [batch, batch]
  generalize (∅ : Table AttendanceKey AttendanceRecord) = start
  induction records generalizing start with
  | nil => rfl
  | cons record records ih =>
    obtain ⟨hevent, hattendance⟩ := h record List.mem_cons_self
    have hadd : tx.addToBatch start record = tx'.addToBatch start record := by
      rw [addToBatch, addToBatch, hevent, hattendance]
    rw [List.foldlM_cons, List.foldlM_cons, hadd]
    congr
    funext next
    exact ih (fun other hother => h other (List.mem_cons_of_mem _ hother)) next

namespace Store

/-- Records were to be written in two stores.  If this has succeeded, they have been staged in both. -/
structure Adds (store : Store) (tables staged : Tables) (records : List AttendanceRecord)
    (succeeded : Bool) (store' : Store) (tables' : Tables) : Prop where
  committed : store'.committed = store.committed
  ids : store'.ids = store.ids
  other : tables' = tables
  staged : succeeded = true → store'.staged = some
    { staged with attendance := staged.attendance ∪ AttendanceRecord.tabulate records }

variable {store : Store} {staged : Tables} {records : List AttendanceRecord}

theorem answer?_insertAttendance_failing (hstaged : store.staged = some staged)
    (hfailing : store.failing = true) :
    answer? (.insertAttendance records) store = some
      (.error AttendanceFault.injected.message, { store with batches := store.batches + 1 }) := by
  refine congrArg some (within_eq hstaged ?_)
  simp only [insertAttendance, hfailing]
  rfl

theorem answer?_insertAttendance_fault (hstaged : store.staged = some staged)
    (hworking : store.failing = false) {fault : AttendanceFault}
    (hbatch : (store.transaction staged).batch records = .error fault) :
    answer? (.insertAttendance records) store =
      some (.error fault.message, { store with batches := store.batches + 1 }) := by
  refine congrArg some (within_eq hstaged ?_)
  simp only [insertAttendance, hworking, hbatch]
  rfl

end Store

namespace Scene

variable {c : Collaborators} {settings : RuntimeSettings} {requester : UserId} {s : Scene}
  {tables : Tables} {batches : Nat} {seen : TeamId → Prop} {teamId : TeamId} {id : EventId}

/-! ## Requests that name a team -/

theorem twins_teamEvents
    (hsame : ∀ role, c.gate settings requester teamId Role.readers = .ok role →
      s.store.committed.SameTeam tables teamId) :
    Twins c (Service.teamEvents settings requester teamId) s tables batches
      fun _ s' tables' => s'.store = s.store ∧ tables' = tables := by
  refine .bind (.authorize fun s' hstore => ?_)
  cases hgate : c.gate settings requester teamId Role.readers with
  | error refusal => exact ⟨hstore, rfl⟩
  | ok role =>
    intro batches'
    have hevents : Store.answer? (.listTeamEvents teamId) (s'.over tables batches').store =
        some (.ok (s'.store.committed.teamEvents teamId), (s'.over tables batches').store) := by
      rw [hstore, (hsame role hgate).teamEvents_eq]
      rfl
    exact .map (.bind (.storage rfl hevents fun s'' hstore' _ =>
      .of_closing (Service.closing_stored _) fun _ _ hstore'' =>
        ⟨hstore''.trans (hstore'.trans hstore), rfl⟩))

/-- The change of an event that is found in its team. -/
theorem twins_writeChange {patch : Patch} {current : Event} (hseen : seen teamId)
    (hsame : s.store.committed.SameTeam tables teamId) (hteam : current.teamId = teamId) :
    Twins c (Service.writeChange teamId id patch current) (s.locked id) tables batches
      fun result s' tables' => s.store.Prepares seen tables result.isOk s'.store tables' := by
  cases hchanged : patch.apply current with
  | error flaw =>
    exact .of_run (run_writeChange_flawed hteam hchanged) (run_writeChange_flawed hteam hchanged)
      ⟨rfl, rfl, .inl rfl, nofun⟩
  | ok changed =>
    have hchangedTeam : changed.teamId = teamId := by
      obtain ⟨-, -, -, rfl⟩ := Patch.apply_eq_ok_iff.1 hchanged
      exact hteam
    -- the store takes the change only if the event is still in its team, which is so in both tables
    -- or in neither
    by_cases hrow : ∃ row, s.store.committed.events[changed.id]? = some row ∧
        row.teamId = changed.teamId
    · obtain ⟨row, hrow, hrowTeam⟩ := hrow
      have hrow' := hsame.eq_of_team hrow (hrowTeam.trans hchangedTeam)
      have hrowSeen : seen row.teamId := by rwa [hrowTeam, hchangedTeam]
      have hknown := Tables.not_foreign hrow hrowSeen
      refine .of_run (run_writeChange_ok hteam hchanged hrow hrowTeam)
        (run_writeChange_ok (s := s.over tables batches) hteam hchanged hrow' hrowTeam)
        ⟨rfl, rfl, .inl rfl, fun _ => ⟨_, _, rfl, Tables.visible_putEvent hknown ?_⟩⟩
      rwa [hchangedTeam]
    · have hastray : ∀ row, s.store.committed.events[changed.id]? = some row →
          row.teamId ≠ changed.teamId :=
        fun row hstored hrowTeam => hrow ⟨row, hstored, hrowTeam⟩
      have hastray' : ∀ row, tables.events[changed.id]? = some row →
          row.teamId ≠ changed.teamId := fun row hstored hrowTeam =>
        hastray row (hsame.symm.eq_of_team hstored (hrowTeam.trans hchangedTeam)) hrowTeam
      exact .of_run (run_writeChange_astray hteam hchanged hastray)
        (run_writeChange_astray (s := s.over tables batches) hteam hchanged hastray')
        ⟨rfl, rfl, .inl rfl, nofun⟩

/-- An event that is not found in the team is missing, whether it is there or not. -/
theorem run_writePatch_elsewhere (c : Collaborators) (patch : Patch)
    (h : ∀ current, s.store.committed.events[id]? = some current → current.teamId ≠ teamId) :
    run c (Service.writePatch teamId id patch) s.begun =
      some (.error (.notFound s!"event {id}"), s.locked id) := by
  cases hfound : s.store.committed.events[id]? with
  | none => exact run_writePatch_missing c teamId patch hfound
  | some current =>
    exact (run_writePatch_found c teamId patch hfound).trans
      (run_writeChange_foreign (h current hfound) patch)

theorem twins_writePatch {patch : Patch} (hseen : seen teamId)
    (hsame : s.store.committed.SameTeam tables teamId) :
    Twins c (Service.writePatch teamId id patch) s.begun tables batches
      fun result s' tables' => s.store.Prepares seen tables result.isOk s'.store tables' := by
  by_cases hcurrent : ∃ current, s.store.committed.events[id]? = some current ∧
      current.teamId = teamId
  · obtain ⟨current, hcurrent, hteam⟩ := hcurrent
    have hcurrent' := hsame.eq_of_team hcurrent hteam
    exact .of_run_eq (run_writePatch_found c teamId patch hcurrent)
      (run_writePatch_found (s := s.over tables batches) c teamId patch hcurrent')
      (twins_writeChange hseen hsame hteam)
  · have hmissing : ∀ current, s.store.committed.events[id]? = some current →
        current.teamId ≠ teamId := fun current hfound hteam => hcurrent ⟨current, hfound, hteam⟩
    have hmissing' : ∀ current, tables.events[id]? = some current → current.teamId ≠ teamId :=
      fun current hfound hteam => hmissing current (hsame.symm.eq_of_team hfound hteam) hteam
    exact .of_run (run_writePatch_elsewhere c patch hmissing)
      (run_writePatch_elsewhere (s := s.over tables batches) c patch hmissing')
      ⟨rfl, rfl, .inl rfl, nofun⟩

theorem twins_updateEvent {patch : Patch} (hfree : s.store.staged = none)
    (hseen : ∀ role, c.gate settings requester teamId settings.eventWriteRoles = .ok role →
      seen teamId)
    (hsame : ∀ role, c.gate settings requester teamId settings.eventWriteRoles = .ok role →
      s.store.committed.SameTeam tables teamId) :
    Twins c (Service.updateEvent settings requester teamId id patch) s tables batches
      fun _ s' tables' => s.store.KeepsTo seen tables s'.store tables' := by
  refine .bind (.authorize fun s' hstore => ?_)
  rw [← hstore] at hfree hsame ⊢
  cases hgate : c.gate settings requester teamId settings.eventWriteRoles with
  | error refusal => exact .refl seen tables hfree
  | ok role =>
    intro batches'
    by_cases hempty : patch.isEmpty = true
    · rw [Service.storePatch_of_isEmpty hempty]
      exact .bind (.throw (.refl seen tables hfree))
    · rw [Service.storePatch_of_not_isEmpty hempty]
      exact .bind_closing
        (.inTransaction hfree (twins_writePatch (hseen role hgate) (hsame role hgate))) fun _ =>
          Service.closing_announce _ _ _ _ _ _

/-! ## Requests that name an event -/

theorem closing_details (settings : RuntimeSettings) (event : Event)
    (records : List AttendanceRecord) : (Service.details settings event records).Closing := by
  have hjoin (profiles : Profiles) : (do
      let attendance ← Service.join records profiles
      pure (EventDetails.mk event attendance) : Service EventDetails).Closing := by
    refine Service.Closing.bind ?_ fun _ => Service.closing_pure _
    rw [Service.join]
    split
    · exact (Service.closing_ask rfl).bind fun _ => Service.closing_pure _
    · exact Service.closing_pure _
  rw [Service.details]
  split
  · exact hjoin ∅
  · exact ((Service.closing_ask rfl).bind fun _ => Service.closing_settle _ _ _).bind hjoin

/-- The status of a user is written alike if the record is the same. -/
theorem twins_writeStatus {userId : UserId} {status : Status}
    (hknown : ¬ s.store.committed.Foreign seen id)
    (hrecord : s.store.committed.attendance[AttendanceKey.mk id userId]? =
      tables.attendance[AttendanceKey.mk id userId]?) :
    Twins c (Service.writeStatus id userId status) s.begun tables batches
      fun result s' tables' => s.store.Prepares seen tables result.isOk s'.store tables' := by
  refine .bind (.of_closing (Service.closing_ask rfl) fun time s' hstore => ?_)
  have hcommitted : s'.store.committed = s.store.committed := by rw [hstore]; rfl
  have hids : s'.store.ids = s.store.ids := by rw [hstore]; rfl
  cases time with
  | error refusal => exact ⟨hcommitted, rfl, .inl hids, nofun⟩
  | ok time =>
    intro batches'
    have hstaged : s'.store.staged = some {} := by rw [hstore]; rfl
    have hstaged' : (s'.over tables batches').store.staged = some {} := hstaged
    have hseenRecord : (s'.store.transaction {}).attendance? ⟨id, userId⟩ =
        ((s'.over tables batches').store.transaction {}).attendance? ⟨id, userId⟩ := by
      rw [Store.attendance?_transaction_empty, Store.attendance?_transaction_empty, hcommitted]
      exact hrecord
    cases hfound : (s'.store.transaction {}).attendance? ⟨id, userId⟩ with
    | none =>
      refine .bind (.storage (Store.answer?_updateStatus_false hstaged hfound status time)
        (Store.answer?_updateStatus_false hstaged' (hseenRecord.symm.trans hfound) status time)
        fun after hafter batches'' => .bind (.pure fun _ => .throw ?_))
      rw [hafter]
      exact ⟨hcommitted, rfl, .inl hids, nofun⟩
    | some record =>
      refine .bind (.storage (Store.answer?_updateStatus_true hstaged hfound status time)
        (Store.answer?_updateStatus_true hstaged' (hseenRecord.symm.trans hfound) status time)
        fun after hafter batches'' => .bind (.pure fun _ => .pure ?_))
      rw [hafter]
      exact ⟨hcommitted, rfl, .inl hids, fun _ =>
        ⟨_, id, rfl, Tables.visible_record hknown userId { record with status, updatedAt := time }⟩⟩

section Agreement

variable (hagree : s.store.committed.Agree seen tables)
  (hseen : ∀ teamId required role, c.gate settings requester teamId required = .ok role →
    seen teamId)

include hagree hseen

/-- An event that the requester may read is the same in both scenes, and any other one is refused
alike. -/
theorem twins_of_found {α : Type} {next : Event → Role → Service α}
    {ends : Except Refusal α → Scene → Tables → Prop}
    (hrefused : ∀ refusal s', s'.store = s.store → ends (.error refusal) s' tables)
    (hnext : ∀ event role s' batches', s.store.committed.events[id]? = some event →
      seen event.teamId → s'.store = s.store → Twins c (next event role) s' tables batches' ends) :
    Twins c (do
      let event ← Service.findEvent id
      let role ← Service.authorizeRead settings requester event.teamId
      next event role) s tables batches ends := by
  let rest (event : Event) : Service α := do
    let role ← Service.authorizeRead settings requester event.teamId
    next event role
  change Twins c (Service.findEvent id >>= rest) s tables batches ends
  rcases hagree.cases_event id with ⟨hnone, hnone'⟩ | ⟨event, event', hevent, hevent', hteam⟩
  · have hnone' : (s.over tables batches).store.committed.events[id]? = none := hnone'
    exact .of_run (run_bind_error (run_findEvent_error hnone))
      (run_bind_error (run_findEvent_error hnone')) (hrefused _ _ rfl)
  · have hevent' : (s.over tables batches).store.committed.events[id]? = some event' := hevent'
    have hfound := run_findEvent_ok (c := c) hevent
    have hfound' := run_findEvent_ok (c := c) hevent'
    cases hgate : c.gate settings requester event.teamId Role.readers with
    | error refusal =>
      -- the events may differ, but the answer depends on their team only
      have hdenied (s : Scene) (event : Event)
          (hgate : c.gate settings requester event.teamId Role.readers = .error refusal) :
          run c (rest event) s = some (.error refusal, s.gated c settings requester event.teamId) :=
        run_bind_error (run_authorize_error hgate)
      have hgate' : c.gate settings requester event'.teamId Role.readers = .error refusal := by
        rw [hteam, hgate]
      have hend' : run c (Service.findEvent id >>= rest) (s.over tables batches) = _ :=
        (run_bind_ok hfound').trans (hdenied _ event' hgate')
      have hgated := gated_over (c := c) (s.note (.storage (.findEvent id))) tables batches settings
        requester event.teamId
      rw [hteam] at hend'
      exact .of_run ((run_bind_ok hfound).trans (hdenied _ event hgate))
        (hend'.trans (congrArg (some ∘ Prod.mk _) hgated)) (hrefused _ _ store_gated)
    | ok role =>
      -- whoever passes the gate sees the team, and so the events are the same
      have hteamSeen := hseen _ _ _ hgate
      have hsame : event' = event := by
        have hstored := (hagree.events _ hteamSeen).eq_of_team hevent rfl
        exact Option.some.inj (hevent'.symm.trans hstored)
      subst hsame
      refine .of_run_eq (run_bind_ok hfound) (run_bind_ok hfound') ?_
      refine .bind (.authorize fun s' hstore => ?_)
      rw [hgate]
      exact fun batches' => hnext event' role s' batches' hevent hteamSeen hstore

theorem twins_eventDetails (htidy : s.store.committed.Tidy) (htidy' : tables.Tidy) :
    Twins c (Service.eventDetails settings requester id) s tables batches
      fun _ s' tables' => s'.store = s.store ∧ tables' = tables := by
  rw [Service.eventDetails_eq]
  refine twins_of_found hagree hseen (fun _ _ hstore => ⟨hstore, rfl⟩) ?_
  intro event role s' batches' hevent hteam hstore
  have hsame := hagree.sameAt htidy.anchored htidy'.anchored (Tables.not_foreign hevent hteam)
  have hrecords : Store.answer? (.listAttendance id) (s'.over tables batches').store =
      some (.ok (s'.store.committed.eventAttendance id), (s'.over tables batches').store) := by
    rw [hstore, hsame.eventAttendance_eq htidy.filed htidy'.filed]
    rfl
  refine .bind (.storage rfl hrecords fun after hafter batches'' => ?_)
  refine .of_closing ((Service.closing_stored _).bind fun _ => closing_details _ _ _) ?_
  exact fun _ _ hend => ⟨hend.trans (hafter.trans hstore), rfl⟩

theorem twins_respond {status : Status} (hfree : s.store.staged = none) :
    Twins c (Service.respond settings requester id status) s tables batches
      fun _ s' tables' => s.store.KeepsTo seen tables s'.store tables' := by
  unfold Service.respond
  refine twins_of_found hagree hseen (fun _ _ hstore => ?_) ?_
  · rw [hstore]
    exact .refl seen tables hfree
  · intro event role s' batches' hevent hteam hstore
    rw [Service.storeStatus_eq]
    have hrecord := hagree.attendance hevent hteam requester
    have hknown := Tables.not_foreign hevent hteam
    rw [← hstore] at hfree hrecord hknown ⊢
    exact .bind_closing (.inTransaction hfree (twins_writeStatus hknown hrecord)) fun _ =>
      Service.closing_announce _ _ _ _ _ _

end Agreement

/-! ## Requests that create an event -/

/-- Records are written alike if they go into a batch alike. -/
theorem twins_insertAttendance {records : List AttendanceRecord} {staged : Tables}
    (hstaged : s.store.staged = some staged)
    (hbatch : (s.store.transaction staged).batch records =
      ((s.over tables batches).store.transaction staged).batch records) :
    Twins c (Service.insertAttendance records) s tables batches
      fun result s' tables' =>
        s.store.Adds tables staged records result.isOk s'.store tables' := by
  have hstaged' : (s.over tables batches).store.staged = some staged := hstaged
  have hrefused {message : String}
      (h : Store.answer? (.insertAttendance records) s.store =
        some (.error message, { s.store with batches := s.store.batches + 1 }))
      (h' : Store.answer? (.insertAttendance records) (s.over tables batches).store =
        some (.error message, { (s.over tables batches).store with batches := batches + 1 })) :
      Twins c (Service.insertAttendance records) s tables batches
        fun result s' tables' =>
          s.store.Adds tables staged records result.isOk s'.store tables' := by
    refine .bind (.storage h h' fun after hafter batches' => ?_)
    refine .bind (.of_run run_stored_error run_stored_error ?_)
    change s.store.Adds tables staged records _ after.store tables
    rw [hafter]
    exact ⟨rfl, rfl, rfl, nofun⟩
  cases hfailing : s.store.failing with
  | true =>
    exact hrefused (Store.answer?_insertAttendance_failing hstaged hfailing)
      (Store.answer?_insertAttendance_failing hstaged' hfailing)
  | false =>
    cases hresult : (s.store.transaction staged).batch records with
    | error fault =>
      exact hrefused (Store.answer?_insertAttendance_fault hstaged hfailing hresult)
        (Store.answer?_insertAttendance_fault hstaged' hfailing (hbatch.symm.trans hresult))
    | ok batch =>
      have haccepts := (Transaction.batch_eq_ok_iff.1 hresult).1
      have haccepts' := (Transaction.batch_eq_ok_iff.1 (hbatch.symm.trans hresult)).1
      refine .bind (.storage (Store.answer?_insertAttendance_ok hstaged hfailing haccepts)
        (Store.answer?_insertAttendance_ok hstaged' hfailing haccepts')
        fun after hafter batches' => .bind (.pure fun batches'' => ?_))
      rw [if_pos rfl]
      refine .pure ?_
      rw [hafter]
      exact ⟨rfl, rfl, rfl, fun _ => rfl⟩

theorem twins_writeRecords {event : Event} {records : List AttendanceRecord} {staged : Tables}
    (hstaged : s.store.staged = some staged)
    (hbatch : (s.store.transaction staged).batch records =
      ((s.over tables batches).store.transaction staged).batch records) :
    Twins c (Service.writeRecords event records) s tables batches
      fun result s' tables' =>
        s.store.Adds tables staged records result.isOk s'.store tables' := by
  by_cases hrecords : records = []
  · subst hrecords
    refine .of_run (run_writeRecords_nil _ _) (run_writeRecords_nil _ _)
      ⟨rfl, rfl, rfl, fun _ => ?_⟩
    rw [hstaged]
    exact congrArg (fun attendance => some { staged with attendance }) (Table.union_empty _).symm
  · unfold Service.writeRecords
    rw [if_neg (by rwa [List.isEmpty_iff])]
    refine .bind ((twins_insertAttendance hstaged hbatch).mono ?_)
    rintro result s' tables' ⟨hcommitted, hids, rfl, hwritten⟩
    cases result with
    | error refusal => exact ⟨hcommitted, hids, rfl, nofun⟩
    | ok written => exact fun _ => .pure ⟨hcommitted, hids, rfl, fun _ => hwritten rfl⟩

/-- A new event and its records are written alike if the same is known of its identifier. -/
theorem twins_writeEvent (new : NewEvent) (roster : List Member) (hteam : seen new.teamId)
    (hknown : ¬ s.store.committed.Foreign seen (s.store.newEvent new).id)
    (hsame : s.store.committed.SameAt tables (s.store.newEvent new).id) :
    Twins c (Service.writeEvent new roster) s.begun tables batches
      fun result s' tables' => s.store.Prepares seen tables result.isOk s'.store tables' := by
  have hbegun : s.begun.store.staged = some {} := rfl
  have hbegun' : (s.begun.over tables batches).store.staged = some {} := rfl
  refine .bind (.storage (Store.answer?_insertEvent hbegun new)
    (Store.answer?_insertEvent hbegun' new) fun inserted hinserted _ => .bind (.pure fun _ => ?_))
  refine .bind (.of_closing (Service.closing_ask rfl) fun time timed htimed => ?_)
  rw [hinserted] at htimed
  have hcommitted : timed.store.committed = s.store.committed := by
    rw [htimed]
    rfl
  have hids : timed.store.ids = (s.store.ids.draw : EventId × IdSource).2 := by
    rw [htimed]
    rfl
  have hstaged : timed.store.staged = some (Tables.putEvent {} (s.store.newEvent new)) := by
    rw [htimed]
    rfl
  cases time with
  | error refusal => exact ⟨hcommitted, rfl, .inr hids, nofun⟩
  | ok time =>
    intro batches'
    refine (twins_writeRecords hstaged (Transaction.batch_congr ?_)).mono ?_
    · -- all records are about the new event, of which both tables know the same
      intro record hrecord
      obtain ⟨userId, -, rfl⟩ := AttendanceRecord.mem_cohort.1 hrecord
      change Option.or _ timed.store.committed.events[(s.store.newEvent new).id]? =
          Option.or _ tables.events[(s.store.newEvent new).id]? ∧
        Option.or _ timed.store.committed.attendance[AttendanceKey.mk _ userId]? =
          Option.or _ tables.attendance[AttendanceKey.mk _ userId]?
      rw [hcommitted, hsame.event]
      exact ⟨rfl, congrArg (Option.or _) (hsame.attendance userId)⟩
    · rintro result s' tables' ⟨hkept, hdrawn, rfl, hwritten⟩
      exact ⟨hkept.trans hcommitted, rfl, .inr (hdrawn.trans hids), fun hok =>
        ⟨_, _, hwritten hok, Tables.visible_cohort hknown hteam roster time⟩⟩

theorem twins_storeEvent {new : NewEvent} (hvalid : new.normalized.validate = .ok ())
    (hfree : s.store.staged = none) (hteam : seen new.teamId)
    (hknown : ¬ s.store.committed.Foreign seen (s.store.newEvent new.normalized).id)
    (hsame : s.store.committed.SameAt tables (s.store.newEvent new.normalized).id) :
    Twins c (Service.storeEvent settings new) s tables batches
      fun _ s' tables' => s.store.KeepsTo seen tables s'.store tables' := by
  cases hverdict : (c.roster new.teamId).verdict settings.deadline "team_summary" with
  | error refusal =>
    have hunlisted := run_storeEvent_unlisted (s := s) hvalid hverdict
    have hunlisted' := run_storeEvent_unlisted (s := s.over tables batches) hvalid hverdict
    rw [consulted_over] at hunlisted'
    refine .of_run hunlisted hunlisted' ?_
    rw [store_consulted]
    exact .refl seen tables hfree
  | ok roster =>
    have hgives := Timed.verdict_eq_ok_iff.1 hverdict
    have hteam' : seen new.normalized.teamId := by rwa [NewEvent.teamId_normalized]
    refine .of_run_eq (run_storeEvent_listed hvalid hgives)
      (run_storeEvent_listed (s := s.over tables batches) hvalid hgives) ?_
    let listed := s.note (.directory (.roster new.teamId))
    exact .inTransaction (s := listed) hfree
      (twins_writeEvent (s := listed) new.normalized roster hteam' hknown hsame)

theorem twins_createEvent {new : NewEvent} (hfree : s.store.staged = none)
    (hagree : s.store.committed.Agree seen tables) (htidy : s.store.committed.Tidy)
    (htidy' : tables.Tidy)
    (hseen : ∀ teamId required role, c.gate settings requester teamId required = .ok role →
      seen teamId)
    (hknown : ¬ s.store.committed.Foreign seen (s.store.ids.draw : EventId × IdSource).1) :
    Twins c (Service.createEvent settings requester new) s tables batches
      fun _ s' tables' => s.store.KeepsTo seen tables s'.store tables' := by
  cases hvalid : new.normalized.validate with
  | error flaw =>
    exact .of_run (run_createEvent_flawed hvalid) (run_createEvent_flawed hvalid)
      (.refl seen tables hfree)
  | ok =>
    unfold Service.createEvent
    refine .of_run_eq (run_bind_ok (run_ofFlaw_ok hvalid)) (run_bind_ok (run_ofFlaw_ok hvalid)) ?_
    refine .bind (.authorize fun s' hstore => ?_)
    rw [← hstore] at hfree hagree htidy hknown ⊢
    cases hgate : c.gate settings requester new.teamId settings.eventWriteRoles with
    | error refusal => exact .refl seen tables hfree
    | ok role =>
      intro batches'
      have hsame := hagree.sameAt htidy.anchored htidy'.anchored hknown
      exact .bind_closing (twins_storeEvent hvalid hfree (hseen _ _ _ hgate) hknown hsame) fun _ =>
        Service.closing_announce _ _ _ _ _ _

/-! ## All requests -/

/-- A request that reads leaves the store as it is. -/
theorem Twins.keepsTo {α : Type} {service : Service α} (hfree : s.store.staged = none)
    (h : Twins c service s tables batches fun _ s' tables' =>
      s'.store = s.store ∧ tables' = tables) :
    Twins c service s tables batches fun _ s' tables' =>
      s.store.KeepsTo seen tables s'.store tables' := by
  refine h.mono ?_
  rintro result s' tables' ⟨hstore, rfl⟩
  rw [hstore]
  exact .refl seen tables' hfree

/-- A request comes to the same end in two scenes whose tables look the same to someone who sees all
the teams in which the requester has a role. -/
theorem twins_service {visit : Visit} (hfree : s.store.staged = none)
    (hagree : s.store.committed.Agree seen tables) (htidy : s.store.committed.Tidy)
    (htidy' : tables.Tidy)
    (hseen : ∀ teamId required role, visit.collaborators.gate visit.settings visit.requester teamId
      required = .ok role → seen teamId)
    (hknown : ¬ s.store.committed.Foreign seen (s.store.ids.draw : EventId × IdSource).1) :
    Twins visit.collaborators visit.service s tables batches
      fun _ s' tables' => s.store.KeepsTo seen tables s'.store tables' := by
  unfold Visit.service
  cases visit.operation with
  | create new => exact .map (twins_createEvent hfree hagree htidy htidy' hseen hknown)
  | update teamId id patch =>
    exact .map (twins_updateEvent hfree (hseen _ _) fun role hgate =>
      hagree.events _ (hseen _ _ role hgate))
  | respond id status => exact .map (twins_respond hagree hseen hfree)
  | read id => exact .map ((twins_eventDetails hagree hseen htidy htidy').keepsTo hfree)
  | list teamId =>
    exact .map ((twins_teamEvents fun role hgate =>
      hagree.events _ (hseen _ _ role hgate)).keepsTo hfree)

/-- A request that names a team comes to the same end in two scenes whose tables have the same
events of the team. -/
theorem twins_service_of_team {visit : Visit} (hfree : s.store.staged = none)
    (hnamed : visit.operation.named? = some teamId)
    (hsame : s.store.committed.SameTeam tables teamId) :
    Twins visit.collaborators visit.service s tables batches
      fun _ s' tables' => s.store.KeepsTo (fun _ => True) tables s'.store tables' := by
  unfold Visit.service
  cases hoperation : visit.operation with
  | update other id patch =>
    rw [hoperation] at hnamed
    cases hnamed
    exact .map (twins_updateEvent hfree (fun _ _ => trivial) fun _ _ => hsame)
  | list other =>
    rw [hoperation] at hnamed
    cases hnamed
    exact .map ((twins_teamEvents fun _ _ => hsame).keepsTo hfree)
  | create | respond | read =>
    rw [hoperation] at hnamed
    cases hnamed

end Scene

end TeamCalendar
