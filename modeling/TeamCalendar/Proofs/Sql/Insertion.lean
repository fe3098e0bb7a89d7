import TeamCalendar.Proofs.Instant.Micros
import TeamCalendar.Proofs.Normalization
import TeamCalendar.Proofs.Scene.Rehearsal
import TeamCalendar.Proofs.Sql.Exchange
import TeamCalendar.Proofs.Sql.Reading
import TeamCalendar.Store

/-!
# Events in a database

An event is inserted with its times, which the database keeps as counts of microseconds.  What it
keeps is asked back at once.

* `Statement.kept?_insertEvent` is the row that a database keeps of an event.
* `Database.insertEvent_survives_iff` says that a database keeps an event without a flaw as a store
  in memory does exactly if none of its times belongs to a leap second, and when the database
  refuses it.
-/

namespace TeamCalendar

/-- The values of a new event by column. -/
def NewEvent.columns (event : NewEvent) : List (String × Sql.Parameter) :=
  [("team_id", .ofId event.teamId), ("title", .text event.title),
   ("event_type", .text event.eventType), ("location", .text event.location),
   ("start_time", .time event.startTime), ("end_time", .time event.endTime)]

namespace Sql

/-- The cell that keeps the value of a parameter. -/
def Parameter.cell : Parameter → Cell
  | .id bits => .id bits
  | .text s => .text s
  | .time t => .time t.toMicros

namespace Row

/-- The row of an event. -/
def ofEvent (event : Event) : Row :=
  [("id", .id event.id.bits), ("team_id", .id event.teamId.bits), ("title", .text event.title),
   ("event_type", .text event.eventType), ("location", .text event.location),
   ("start_time", .time event.startTime.toMicros), ("end_time", .time event.endTime.toMicros)]

/-- Whether the start of an event is before its end, which is what the table of the events checks.
-/
def isOrdered (row : Row) : Bool :=
  match row.lookup "start_time", row.lookup "end_time" with
  | some (.time start), some (.time last) => start < last
  | _, _ => false

/-- The reply of a database that keeps a row of an event if it is in order, and explains otherwise
why it does not. -/
def kept (row : Row) (explanation : String) : Except Failure Reply :=
  if row.isOrdered then .ok { rows := [row] } else .error (.refused explanation)

end Row

namespace Statement

/-- The row that is asked back of a row with the given values and with an identifier from the
database. -/
def returned (columns : List String) (id : BitVec 128) (values : List (String × Parameter)) : Row :=
  let row : Row := ("id", .id id) :: values.map fun (column, value) => (column, value.cell)
  columns.map fun column => (column, (row.lookup column).getD .null)

/-- The row that a statement inserts into a table and asks back, if it inserts one. -/
def kept? (statement : Statement) (table : String) (id : BitVec 128) : Option Row := do
  let insertion ← statement.insertion?
  match ← statement.inserted? with
  | [values] =>
    if insertion.table = table then some (returned insertion.returning id values) else none
  | _ => none

theorem insertion?_insertEvent (event : NewEvent) :
    (insertEvent event).insertion? = some
      { table := "events"
        columns := ["team_id", "title", "event_type", "location", "start_time", "end_time"]
        rows := [[1, 2, 3, 4, 5, 6]]
        returning :=
          ["id", "team_id", "title", "event_type", "location", "start_time", "end_time"] } := by
  have htext : (insertEvent event).text =
      "INSERT INTO events (team_id, title, event_type, location, start_time, end_time) " ++
        ("VALUES ($1, $2, $3, $4, $5, $6) RETURNING " ++
          "id, team_id, title, event_type, location, start_time, end_time") := rfl
  rw [insertion?, htext]
  decide +kernel

theorem inserted?_insertEvent (event : NewEvent) :
    (insertEvent event).inserted? = some [event.columns] := by
  rw [inserted?, insertion?_insertEvent]
  rfl

/-- A database keeps the row of the event with its identifier. -/
theorem kept?_insertEvent (event : Event) :
    (insertEvent event.toNewEvent).kept? "events" event.id.bits = some (Row.ofEvent event) := by
  rw [kept?, insertion?_insertEvent, inserted?_insertEvent]
  rfl

end Statement

namespace Row

theorem isOrdered_ofEvent (event : Event) :
    (ofEvent event).isOrdered = true ↔ event.startTime.toMicros < event.endTime.toMicros := by
  have hordered : (ofEvent event).isOrdered =
      decide (event.startTime.toMicros < event.endTime.toMicros) := rfl
  rw [hordered, decide_eq_true_iff]

theorem event?_ofEvent (event : Event) :
    (ofEvent event).event? =
      (Instant.ofMicros? event.startTime.toMicros).bind fun startTime =>
        (Instant.ofMicros? event.endTime.toMicros).map fun endTime =>
          { event with startTime, endTime } := by
  have hid : (ofEvent event).id? "id" = some event.id := rfl
  have hteam : (ofEvent event).id? "team_id" = some event.teamId := rfl
  have htitle : (ofEvent event).text? "title" = some event.title := rfl
  have htype : (ofEvent event).text? "event_type" = some event.eventType := rfl
  have hlocation : (ofEvent event).text? "location" = some event.location := rfl
  have hstart : (ofEvent event).time? "start_time" =
      Instant.ofMicros? event.startTime.toMicros := rfl
  have hend : (ofEvent event).time? "end_time" = Instant.ofMicros? event.endTime.toMicros := rfl
  rw [event?, hid, hteam, htitle, htype, hlocation, hstart, hend]
  cases Instant.ofMicros? event.startTime.toMicros with
  | none => rfl
  | some startTime =>
    cases Instant.ofMicros? event.endTime.toMicros with
    | none => rfl
    | some endTime => rfl

/-- The event is read from its row exactly if its times are read from their counts. -/
theorem event?_ofEvent_eq_some_iff {event : Event} :
    (ofEvent event).event? = some event ↔
      Instant.ofMicros? event.startTime.toMicros = some event.startTime ∧
        Instant.ofMicros? event.endTime.toMicros = some event.endTime := by
  rw [event?_ofEvent, Option.bind_eq_some_iff]
  constructor
  · rintro ⟨startTime, hstart, hevent⟩
    obtain ⟨endTime, hend, hevent⟩ := Option.map_eq_some_iff.1 hevent
    have hsameStart : startTime = event.startTime :=
      congrArg (fun event : Event => event.startTime) hevent
    have hsameEnd : endTime = event.endTime := congrArg (fun event : Event => event.endTime) hevent
    rw [hsameStart] at hstart
    rw [hsameEnd] at hend
    exact ⟨hstart, hend⟩
  · rintro ⟨hstart, hend⟩
    exact ⟨_, hstart, Option.map_eq_some_iff.2 ⟨_, hend, rfl⟩⟩

end Row

namespace Database

/-- The event that is read from the first row of the reply to an insertion. -/
def insertedEvent : Except Failure Reply → Except String Event
  | .error failure => .error failure.message
  | .ok reply =>
    match reply.rows with
    | [] => .error noRowMessage
    | row :: _ =>
      match row.event? with
      | some event => .ok event
      | none => .error Failure.client.message

/-- An event is inserted with one statement. -/
theorem exchange_insertEvent (replies : Nat → Except Failure Reply) (event : NewEvent) :
    exchange replies (answer (.insertEvent event)) [] =
      (insertedEvent (replies 0), [.run (.insertEvent event)]) := by
  have hanswer : exchange replies (answer (.insertEvent event)) [] =
      exchange replies (insertEvent event).run [] := rfl
  rw [hanswer, insertEvent, firstEvent, bind_assoc, exchange_run_bind, List.length_nil]
  cases replies 0 with
  | error failure => rfl
  | ok reply =>
    rw [insertedEvent]
    cases hrows : reply.rows with
    | nil =>
      simp only [hrows]
      rfl
    | cons row rows =>
      simp only [hrows]
      cases row.event? with
      | none => rfl
      | some event => rfl

/-- A database answers with an event exactly if it keeps the row and the times are read from their
counts. -/
theorem insertedEvent_kept_eq_ok_iff (event : Event) (explanation : String) :
    insertedEvent ((Row.ofEvent event).kept explanation) = .ok event ↔
      event.startTime.toMicros < event.endTime.toMicros ∧
        Instant.ofMicros? event.startTime.toMicros = some event.startTime ∧
        Instant.ofMicros? event.endTime.toMicros = some event.endTime := by
  rw [← Row.isOrdered_ofEvent, ← Row.event?_ofEvent_eq_some_iff, Row.kept]
  by_cases hordered : (Row.ofEvent event).isOrdered = true
  · rw [if_pos hordered, and_iff_right hordered]
    simp only [insertedEvent]
    cases (Row.ofEvent event).event? with
    | none => exact iff_of_false (fun h => nomatch h) (fun h => nomatch h)
    | some found => rw [Except.ok.injEq, Option.some.injEq]
  · rw [if_neg hordered]
    exact iff_of_false (fun h => nomatch h) fun h => hordered h.1

/-- An event without a flaw is sent to a database with times that fit into 64 bits.  It is kept
there if its start is before its end in microseconds, which fails exactly if the start belongs to a
leap second that overruns the second that follows, where the end is.  A time is read back as it was
exactly if it does not belong to a leap second, and otherwise as the time that is as far in the
second that follows.  So a database answers with the event that a store in memory would keep exactly
if none of the times belongs to a leap second. -/
theorem insertEvent_survives_iff {new : NewEvent} (h : new.normalized.validate = .ok ())
    (store : Store) (tx : Transaction) (explanation : String) :
    ∃ event, (store.insertEvent tx new.normalized).1 = event ∧
      event.toNewEvent = new.normalized ∧
      (Statement.insertEvent new.normalized).kept? "events" event.id.bits =
        some (Row.ofEvent event) ∧
      (∀ t ∈ [event.startTime, event.endTime],
        Instant.FitsWord t.toMicros ∧
        (Instant.ofMicros? t.toMicros = some t ↔ ¬ t.IsLeap) ∧
        (t.IsLeap → Instant.ofMicros? t.toMicros =
          Instant.ofParts? (t.second + 1) (t.nano - Instant.nanosPerSecond))) ∧
      (event.startTime.toMicros < event.endTime.toMicros ↔
        ¬ event.startTime.Overruns event.endTime) ∧
      (∀ replies, replies 0 = (Row.ofEvent event).kept explanation →
        (exchange replies (answer (.insertEvent new.normalized)) [] =
            (.ok event, [.run (.insertEvent new.normalized)]) ↔
          ¬ event.startTime.IsLeap ∧ ¬ event.endTime.IsLeap)) := by
  have hproper := NewEvent.proper_normalized h
  -- all that matters of the normal form is that it is proper
  generalize new.normalized = stored at *
  obtain ⟨event, hevent, rfl⟩ : ∃ event, (store.insertEvent tx stored).1 = event ∧
      event.toNewEvent = stored := ⟨_, rfl, rfl⟩
  have hordered := Instant.toMicros_lt_toMicros_iff hproper.startWhole hproper.endWhole
    hproper.ordered
  refine ⟨event, hevent, rfl, Statement.kept?_insertEvent event, ?_, hordered,
    fun replies hreply => ?_⟩
  · exact List.forall_mem_cons.2 ⟨Instant.micros_read hproper.startWhole,
      List.forall_mem_cons.2 ⟨Instant.micros_read hproper.endWhole, List.forall_mem_nil _⟩⟩
  · -- what is refused begins in a leap second, so the order of the counts adds no condition
    have hread := insertedEvent_kept_eq_ok_iff event explanation
    rw [hordered, Instant.ofMicros?_toMicros_eq_some_iff hproper.startWhole,
      Instant.ofMicros?_toMicros_eq_some_iff hproper.endWhole,
      and_iff_right_of_imp fun hleap hoverruns => hleap.1 hoverruns.isLeap] at hread
    rw [exchange_insertEvent, hreply, ← hread]
    exact ⟨fun h => congrArg Prod.fst h, fun h => congrArg (Prod.mk · _) h⟩

/-- A training before 1970 survives, with a start that is not whole. -/
theorem insertEvent_survives_iff_before_epoch :
    ∃ (new : NewEvent) (event : Event), new.normalized.validate = .ok () ∧
      new.startTime.second < 0 ∧ event.toNewEvent = new.normalized ∧
      exchange (fun _ => (Row.ofEvent event).kept "check") (answer (.insertEvent new.normalized)) [] =
        (.ok event, [.run (.insertEvent new.normalized)]) := by
  let new : NewEvent :=
    { Sample.training with startTime := ⟨-1, 123456789, by decide⟩ }
  have hflawless : new.validate = .ok () := NewEvent.validate_eq_ok_iff.2 (by decide)
  have hvalid : new.normalized.validate = .ok () :=
    (NewEvent.validate_normalized_of_validate hflawless).trans (if_pos (by decide))
  obtain ⟨event, -, hnew, -, -, -, hanswer⟩ :=
    insertEvent_survives_iff hvalid {} { committed := {}, staged := {} } "check"
  refine ⟨new, event, hvalid, by decide, hnew, (hanswer _ rfl).2 ?_⟩
  rw [hnew, NewEvent.normalized]
  decide

/-- A training that begins in a leap second, and ends in the second that follows, is refused. -/
theorem exists_insertEvent_not_survives :
    ∃ new : NewEvent, new.normalized.validate = .ok () ∧
      ¬ new.normalized.startTime.toMicros < new.normalized.endTime.toMicros ∧
      Instant.ofMicros? new.normalized.startTime.toMicros ≠ some new.normalized.startTime := by
  let new : NewEvent :=
    { Sample.training with
      startTime := ⟨1483228799, 1500000000, by decide⟩
      endTime := ⟨1483228800, 250000000, by decide⟩ }
  have hflawless : new.validate = .ok () := NewEvent.validate_eq_ok_iff.2 (by decide)
  have hvalid : new.normalized.validate = .ok () :=
    (NewEvent.validate_normalized_of_validate hflawless).trans (if_pos (by decide))
  refine ⟨new, hvalid, ?_, ?_⟩
  · rw [NewEvent.normalized]
    decide
  · rw [NewEvent.normalized]
    decide

end Database

end Sql

end TeamCalendar
