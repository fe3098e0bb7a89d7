import TeamCalendar.Proofs.Scene.Rehearsal
import TeamCalendar.Proofs.Sql.Exchange
import TeamCalendar.Proofs.Sql.Reading
import TeamCalendar.Proofs.Store.Tidy

/-!
# Revised events

A database revises the events that a statement is about, and gives them the values that the
statement assigns.  A store in memory puts the new event in the place of the old one.

* `Statement.after_updateEvent` says what becomes of an event in a database: its type stays, as
  do its identifier and its team.
* `Store.updateEvent_agrees_iff` says what becomes of the events in memory, and that it is the same
  exactly as long as nobody asks for another type.
* `Store.exists_updateEvent_eventType_ne` asks for another type.
-/

namespace TeamCalendar

namespace Sql

/-- What a text says that revises rows. -/
structure Revision where
  table : String
  /-- The columns that get new values, with the numbers of the parameters. -/
  assignments : List (String × Nat)
  /-- The columns whose values tell which rows are revised, with the numbers of the parameters. -/
  conditions : List (String × Nat)
  deriving DecidableEq

namespace Revision

/-- Reads columns that are equal to places, as far as they go with the given piece between every two
of them. -/
def pairs? (between : Token) : List Token → Option (List (String × Nat) × List Token)
  | .word column :: .mark '=' :: .place number :: next :: tokens =>
    if next = between then
      (pairs? between tokens).map fun later => ((column, number) :: later.1, later.2)
    else some ([(column, number)], next :: tokens)
  | [.word column, .mark '=', .place number] => some ([(column, number)], [])
  | _ => none

/-- Reads a text that revises rows. -/
def ofTokens? : List Token → Option Revision
  | .word "UPDATE" :: .word table :: .word "SET" :: tokens =>
    match pairs? (.mark ',') tokens with
    | some (assignments, .word "WHERE" :: tokens) =>
      match pairs? (.word "AND") tokens with
      | some (conditions, []) => some { table, assignments, conditions }
      | _ => none
    | _ => none
  | _ => none

end Revision

end Sql

/-- The values of an event by column. -/
def Event.columns (event : Event) : List (String × Sql.Parameter) :=
  [("id", .ofId event.id), ("team_id", .ofId event.teamId), ("title", .text event.title),
   ("event_type", .text event.eventType), ("location", .text event.location),
   ("start_time", .time event.startTime), ("end_time", .time event.endTime)]

/-- An event with the title, the location and the times of another one. -/
def Event.revised (event revision : Event) : Event :=
  { event with
    title := revision.title
    location := revision.location
    startTime := revision.startTime
    endTime := revision.endTime }

namespace Event

theorem columns_injective {a b : Event} (h : a.columns = b.columns) : a = b := by
  simp only [columns, Sql.Parameter.ofId, List.cons.injEq, Prod.mk.injEq, Sql.Parameter.id.injEq,
    Sql.Parameter.text.injEq, Sql.Parameter.time.injEq, true_and, and_true] at h
  obtain ⟨hid, hteam, htitle, htype, hlocation, hstart, hend⟩ := h
  rcases a with ⟨⟨⟨_⟩, _, _, _, _, _⟩, ⟨_⟩⟩
  rcases b with ⟨⟨⟨_⟩, _, _, _, _, _⟩, ⟨_⟩⟩
  cases hid
  cases hteam
  cases htitle
  cases htype
  cases hlocation
  cases hstart
  cases hend
  rfl

end Event

namespace Sql

theorem Parameter.ofId_inj {kind : IdKind} {a b : Id kind} :
    Parameter.ofId a = Parameter.ofId b ↔ a = b := by
  rw [ofId, ofId, id.injEq, Id.mk.injEq]

namespace Statement

/-- What a statement says, if it revises rows. -/
def revision? (statement : Statement) : Option Revision :=
  Revision.ofTokens? (Token.scan none statement.text.toList)

/-- Whether a row has the values that conditions ask for. -/
def isMet (statement : Statement) (conditions : List (String × Nat))
    (row : List (String × Parameter)) : Bool :=
  conditions.all fun (column, number) =>
    (row.lookup column).isSome && row.lookup column = statement.parameter? number

/-- A row with the values that are assigned to its columns. -/
def assign (statement : Statement) (assignments : List (String × Nat))
    (row : List (String × Parameter)) : List (String × Parameter) :=
  row.map fun (column, value) =>
    (column, ((assignments.lookup column).bind statement.parameter?).getD value)

/-- What becomes of a row of a table, if a statement revises it. -/
def revised? (statement : Statement) (table : String) (row : List (String × Parameter)) :
    Option (List (String × Parameter)) := do
  let revision ← statement.revision?
  if revision.table = table ∧ statement.isMet revision.conditions row then
    some (statement.assign revision.assignments row)
  else none

/-- What becomes of a row of a table. -/
def after (statement : Statement) (table : String) (row : List (String × Parameter)) :
    List (String × Parameter) :=
  (statement.revised? table row).getD row

theorem revision?_updateEvent (event : Event) :
    (updateEvent event).revision? = some
      { table := "events"
        assignments := [("title", 3), ("location", 4), ("start_time", 5), ("end_time", 6)]
        conditions := [("id", 1), ("team_id", 2)] } := by
  have htext : (updateEvent event).text =
      "UPDATE events SET title = $3, location = $4, start_time = $5, end_time = $6 " ++
        "WHERE id = $1 AND team_id = $2" := rfl
  rw [revision?, htext]
  decide

/-- The events with the identifier and the team are revised, and nothing but their titles, their
locations and their times. -/
theorem after_updateEvent (event row : Event) :
    (updateEvent event).after "events" row.columns =
      if row.id = event.id ∧ row.teamId = event.teamId then (row.revised event).columns
      else row.columns := by
  have hid : (updateEvent event).parameter? 1 = some (.ofId event.id) := rfl
  have hteam : (updateEvent event).parameter? 2 = some (.ofId event.teamId) := rfl
  have hmet : (updateEvent event).isMet [("id", 1), ("team_id", 2)] row.columns = true ↔
      row.id = event.id ∧ row.teamId = event.teamId := by
    have hrowId : row.columns.lookup "id" = some (.ofId row.id) := rfl
    have hrowTeam : row.columns.lookup "team_id" = some (.ofId row.teamId) := rfl
    simp only [isMet, List.all_cons, List.all_nil, hid, hteam, hrowId, hrowTeam,
      Option.isSome_some, Bool.true_and, Bool.and_true, Bool.and_eq_true, decide_eq_true_eq,
      Option.some.injEq, Parameter.ofId_inj]
  rw [after, revised?, revision?_updateEvent]
  simp only [Option.bind_eq_bind, Option.bind_some, hmet, true_and]
  split
  · rfl
  · rfl

end Statement

/-- A database is asked to revise an event, and says how many rows it has revised. -/
theorem Database.exchange_updateEvent (replies : Nat → Except Failure Reply) (event : Event) :
    exchange replies (answer (.updateEvent event)) [] =
      (match replies 0 with
        | .ok reply => .ok (0 < reply.affected)
        | .error failure => .error failure.message,
      [.run (.updateEvent event)]) := by
  have hanswer : exchange replies (answer (.updateEvent event)) [] =
      exchange replies (run (.updateEvent event) >>= fun reply =>
        (pure (decide (0 < reply.affected)) : Query Bool)).run [] := rfl
  rw [hanswer, exchange_run_bind, List.length_nil]
  cases replies 0 with
  | ok reply => rfl
  | error failure => rfl

end Sql

namespace Transaction

variable {tx : Transaction}

theorem event?_putEvent (tx : Transaction) (event : Event) (id : EventId) :
    (tx.putEvent event).event? id = if event.id = id then some event else tx.event? id := by
  rw [event?_eq, putEvent, Tables.overlay_putEvent_staged, Tables.getElem?_events_putEvent,
    event?_eq]

theorem attendance?_putEvent (tx : Transaction) (event : Event) (key : AttendanceKey) :
    (tx.putEvent event).attendance? key = tx.attendance? key :=
  rfl

theorem updateEvent?_of_found {event row : Event} (hrow : tx.event? event.id = some row)
    (hteam : row.teamId = event.teamId) : tx.updateEvent? event = some (tx.putEvent event) := by
  rw [updateEvent?, hrow]
  exact if_pos hteam

theorem updateEvent?_of_not_found {event : Event}
    (h : ¬ ∃ row, tx.event? event.id = some row ∧ row.teamId = event.teamId) :
    tx.updateEvent? event = none := by
  rw [updateEvent?]
  cases hrow : tx.event? event.id with
  | none => rfl
  | some row => exact if_neg fun hteam => h ⟨row, hrow, hteam⟩

end Transaction

namespace Store

variable {store : Store} {tx : Transaction}

/-- A store in memory after some calls. -/
def Reached (store : Store) : Prop :=
  ∃ (ids : IdSource) (calls : List StoreCall), store = StoreCall.after Store.serve calls { ids }

/-- An open transaction sees events under their own identifiers. -/
theorem Reached.keyed (h : store.Reached) (htx : store.transaction? = some tx) {id : EventId}
    {row : Event} (hrow : tx.event? id = some row) : row.id = id := by
  obtain ⟨ids, calls, rfl⟩ := h
  obtain ⟨staged, hstaged, rfl⟩ := Option.map_eq_some_iff.1 htx
  have hcopy := (Store.tidy_after (tidy_new ids) calls).copy _ (by rw [copying, hstaged]; rfl)
  rw [Transaction.event?_eq] at hrow
  exact hcopy.keyed id row hrow

theorem stage_of_transaction? (htx : store.transaction? = some tx) : store.stage tx = store := by
  obtain ⟨staged, hstaged, rfl⟩ := Option.map_eq_some_iff.1 htx
  rw [stage, ← hstaged]

theorem answer?_updateEvent_of_found (htx : store.transaction? = some tx) {event row : Event}
    (hrow : tx.event? event.id = some row) (hteam : row.teamId = event.teamId) :
    Store.answer? (.updateEvent event) store =
      some (.ok true, store.stage (tx.putEvent event)) := by
  simp only [Store.answer?, within, htx, Transaction.updateEvent?_of_found hrow hteam]
  rfl

theorem answer?_updateEvent_of_not_found (htx : store.transaction? = some tx) {event : Event}
    (h : ¬ ∃ row, tx.event? event.id = some row ∧ row.teamId = event.teamId) :
    Store.answer? (.updateEvent event) store = some (.ok false, store.stage tx) := by
  simp only [Store.answer?, within, htx, Transaction.updateEvent?_of_not_found h,
    stage_of_transaction? htx]
  rfl

/-- An event that is put in the place of another one is what a database makes of that one exactly if
they have the same type. -/
theorem columns_eq_after_iff {event row : Event} (hid : row.id = event.id)
    (hteam : row.teamId = event.teamId) :
    event.columns = (Sql.Statement.updateEvent event).after "events" row.columns ↔
      row.eventType = event.eventType := by
  rw [Sql.Statement.after_updateEvent, if_pos ⟨hid, hteam⟩]
  constructor
  · intro h
    have hevent := Event.columns_injective h
    rw [hevent, Event.revised]
  · intro htype
    rw [Event.revised, hid, hteam, htype]

/-- A database leaves the events with another identifier or another team as they are. -/
theorem map_after_eq {event : Event} {id : EventId}
    (h : ∀ row, tx.event? id = some row → ¬ (row.id = event.id ∧ row.teamId = event.teamId)) :
    ((tx.event? id).map fun row =>
        (Sql.Statement.updateEvent event).after "events" row.columns) =
      (tx.event? id).map Event.columns := by
  cases hrow : tx.event? id with
  | none => rfl
  | some row =>
    rw [Option.map_some, Option.map_some, Sql.Statement.after_updateEvent, if_neg (h row hrow)]

/-- An event is put in the place of another one with the same outcome as in a database exactly if
they have the same type. -/
theorem putEvent_agrees_iff (hreached : store.Reached) (htx : store.transaction? = some tx)
    {event row : Event} (hrow : tx.event? event.id = some row) (hteam : row.teamId = event.teamId) :
    (∀ id, ((tx.putEvent event).event? id).map Event.columns = (tx.event? id).map fun row =>
        (Sql.Statement.updateEvent event).after "events" row.columns) ↔
      row.eventType = event.eventType := by
  have hput : (tx.putEvent event).event? event.id = some event := by
    rw [Transaction.event?_putEvent, if_pos rfl]
  have hagrees := columns_eq_after_iff (hreached.keyed htx hrow) hteam
  constructor
  · intro h
    have hsame := h event.id
    rw [hput, hrow, Option.map_some, Option.map_some, Option.some.injEq] at hsame
    exact hagrees.1 hsame
  · intro htype id
    by_cases hid : event.id = id
    · subst hid
      rw [hput, hrow, Option.map_some, Option.map_some]
      exact congrArg some (hagrees.2 htype)
    · -- rows are under their own identifiers, so no row is revised that is found under another one
      have hother : ∀ row, tx.event? id = some row →
          ¬ (row.id = event.id ∧ row.teamId = event.teamId) := fun row hother hsame =>
        hid (hsame.1.symm.trans (hreached.keyed htx hother))
      rw [Transaction.event?_putEvent, if_neg hid, map_after_eq hother]

/-- Some store has an open transaction that sees a given event under some identifier. -/
theorem exists_reached (new : NewEvent) :
    ∃ (store : Store) (tx : Transaction) (row : Event), store.Reached ∧
      store.transaction? = some tx ∧ tx.event? row.id = some row ∧ row.toNewEvent = new := by
  let ids : IdSource := {}
  let row : Event := { new with id := ids.draw.1 }
  let tx : Transaction := { committed := {}, staged := {} }
  refine ⟨StoreCall.after Store.serve [.ask .begin, .ask (.insertEvent new)] { ids },
    tx.putEvent row, row, ⟨ids, _, rfl⟩, rfl, ?_, rfl⟩
  rw [Transaction.event?_putEvent, if_pos rfl]

/-- Within a transaction an event is put in the place of the one with its identifier and its team,
which is there exactly if the answer says so; no other event changes, no attendance record, and
nothing that is committed.  A database is sent one statement, which revises the event with this
identifier and this team, but keeps its type.  So the events are the same afterwards exactly if the
type is that of the event that was there. -/
theorem updateEvent_agrees_iff (hreached : store.Reached) (htx : store.transaction? = some tx)
    (event : Event) :
    ∃ (found : Bool) (changed : Transaction),
      Store.answer? (.updateEvent event) store = some (.ok found, store.stage changed) ∧
      (found = true ↔ ∃ row, tx.event? event.id = some row ∧ row.teamId = event.teamId) ∧
      changed.committed = tx.committed ∧
      (∀ key, changed.attendance? key = tx.attendance? key) ∧
      (∀ id, id ≠ event.id → changed.event? id = tx.event? id) ∧
      (changed.event? event.id = if found then some event else tx.event? event.id) ∧
      (∀ row : Event, (Sql.Statement.updateEvent event).after "events" row.columns =
        if row.id = event.id ∧ row.teamId = event.teamId then (row.revised event).columns
        else row.columns) ∧
      (∀ replies, Sql.Database.exchange replies (Sql.Database.answer (.updateEvent event)) [] =
        (match replies 0 with
          | .ok reply => .ok (0 < reply.affected)
          | .error failure => .error failure.message,
        [.run (.updateEvent event)])) ∧
      ((∀ id, (changed.event? id).map Event.columns = (tx.event? id).map fun row =>
          (Sql.Statement.updateEvent event).after "events" row.columns) ↔
        ∀ row, tx.event? event.id = some row → row.teamId = event.teamId →
          row.eventType = event.eventType) := by
  have hrows := Sql.Statement.after_updateEvent event
  have hexchange := fun replies => Sql.Database.exchange_updateEvent replies event
  by_cases hfound : ∃ row, tx.event? event.id = some row ∧ row.teamId = event.teamId
  case pos =>
    obtain ⟨row, hrow, hteam⟩ := hfound
    have hput : (tx.putEvent event).event? event.id = some event := by
      rw [Transaction.event?_putEvent, if_pos rfl]
    have hkept (id : EventId) (hid : id ≠ event.id) :
        (tx.putEvent event).event? id = tx.event? id := by
      rw [Transaction.event?_putEvent, if_neg hid.symm]
    refine ⟨true, tx.putEvent event, answer?_updateEvent_of_found htx hrow hteam,
      iff_of_true rfl ⟨row, hrow, hteam⟩, rfl, tx.attendance?_putEvent event, hkept, hput, hrows,
      hexchange,
      (putEvent_agrees_iff hreached htx hrow hteam).trans ⟨fun htype other hother _ => ?_,
        fun h => h row hrow hteam⟩⟩
    rw [hrow] at hother
    cases hother
    exact htype
  case neg =>
    refine ⟨false, tx, answer?_updateEvent_of_not_found htx hfound,
      iff_of_false Bool.false_ne_true hfound, rfl, fun _ => rfl, fun _ _ => rfl, rfl, hrows,
      hexchange, fun _ row hrow hteam => absurd ⟨row, hrow, hteam⟩ hfound, fun _ id => ?_⟩
    refine (map_after_eq fun row hrow hsame => hfound ⟨row, ?_, hsame.2⟩).symm
    rw [← hsame.1, hreached.keyed htx hrow, hrow]

/-- A training is moved to another place. -/
theorem updateEvent_agrees_iff_moved :
    ∃ (store : Store) (tx changed : Transaction) (event : Event),
      store.Reached ∧ store.transaction? = some tx ∧ tx.event? event.id ≠ some event ∧
      Store.answer? (.updateEvent event) store = some (.ok true, store.stage changed) ∧
      changed.event? event.id = some event ∧
      ∀ id, (changed.event? id).map Event.columns = (tx.event? id).map fun row =>
        (Sql.Statement.updateEvent event).after "events" row.columns := by
  obtain ⟨store, tx, row, hreached, htx, hrow, hnew⟩ := exists_reached Sample.training
  let event : Event := { row with location := "Yard" }
  obtain ⟨found, changed, hanswer, hfound, -, -, -, hchanged, -, -, hagrees⟩ :=
    updateEvent_agrees_iff hreached htx event
  have hrowLocation : row.location = "Hall" := by rw [hnew, Sample.training]
  have hfoundRow : found = true := hfound.2 ⟨row, hrow, rfl⟩
  rw [hfoundRow] at hanswer hchanged
  refine ⟨store, tx, changed, event, hreached, htx, ?_, hanswer, hchanged, hagrees.2 ?_⟩
  · rw [hrow]
    intro hsame
    have hlocation : row.location = "Yard" :=
      congrArg (fun event : Event => event.location) (Option.some.inj hsame)
    rw [hrowLocation] at hlocation
    exact absurd hlocation (by decide)
  · intro other hother _
    rw [hrow] at hother
    cases hother
    rfl

/-- A training becomes a game in memory, and stays a training in a database. -/
theorem exists_updateEvent_eventType_ne :
    ∃ (store : Store) (tx changed : Transaction) (event row : Event),
      store.Reached ∧ store.transaction? = some tx ∧ tx.event? event.id = some row ∧
      Store.answer? (.updateEvent event) store = some (.ok true, store.stage changed) ∧
      changed.event? event.id = some event ∧ event.eventType ≠ row.eventType ∧
      (Sql.Statement.updateEvent event).after "events" row.columns = row.columns := by
  obtain ⟨store, tx, row, hreached, htx, hrow, hnew⟩ := exists_reached Sample.training
  let event : Event := { row with eventType := "game" }
  have htype : row.eventType = " Practice" := by rw [hnew, Sample.training]
  refine ⟨store, tx, tx.putEvent event, event, row, hreached, htx, hrow,
    answer?_updateEvent_of_found htx hrow rfl, ?_, ?_, ?_⟩
  · rw [Transaction.event?_putEvent, if_pos rfl]
  · have hne : "game" ≠ " Practice" := by decide
    rw [htype]
    exact hne
  · rw [Sql.Statement.after_updateEvent, if_pos ⟨rfl, rfl⟩]
    rfl

end Store

end TeamCalendar
