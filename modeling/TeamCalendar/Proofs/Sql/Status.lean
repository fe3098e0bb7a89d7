import Mathlib.Data.List.Forall2
import TeamCalendar.Proofs.Sql.Exchange
import TeamCalendar.Proofs.Text.Words

/-!
# Texts for statuses

The status of a record is kept as a text.  The text is brought into upper case and compared with the words
for the statuses, and in upper case a dotless i becomes an `I`.  So a word may be spelled with it, and no
other character stands for a letter of one of these words.

* `Status.parse?_eq_some_iff` says which texts stand for a status, and `Status.parse?_exact_iff` when these
  are the words alone.
* `Database.listAttendance_spelled` says what that means for the records in a database.
-/

namespace TeamCalendar

namespace Status

variable {s : String} {status : Status}

/-- The text spells the status: it is the word for it, blanks around it and the case of Basic Latin letters
aside, where a dotless i counts as an i. -/
def Spells (s : String) (status : Status) : Prop :=
  Text.SameLetters (Text.withDots (Text.trim s)) status.name

instance (s : String) (status : Status) : Decidable (Spells s status) :=
  inferInstanceAs (Decidable (Text.SameLetters _ _))

theorem isNative_name (status : Status) :
    Text.IsNative Char.toUpper Text.upperStrays status.name := by
  cases status with
  | pending => decide
  | accepted => decide
  | declined => decide
  | tentative => decide

theorem parse?_eq_some_iff_upper :
    parse? s = some status ↔ Text.upper (Text.trim s) = status.name := by
  unfold parse?
  constructor
  · intro hstatus
    split at hstatus
    · next hword =>
      cases hstatus
      exact hword
    · next hword =>
      cases hstatus
      exact hword
    · next hword =>
      cases hstatus
      exact hword
    · next hword =>
      cases hstatus
      exact hword
    · cases hstatus
  · intro hword
    rw [hword]
    cases status <;> rfl

/-- The texts for a status are those that spell it. -/
theorem parse?_eq_some_iff : parse? s = some status ↔ Spells s status := by
  rw [parse?_eq_some_iff_upper, Text.upper_eq_iff (isNative_name status), Spells]

theorem parse?_eq_none_iff : parse? s = none ↔ ∀ status, ¬ Spells s status := by
  rw [Option.eq_none_iff_forall_ne_some]
  exact forall_congr' fun status => not_congr parse?_eq_some_iff

/-- Without a dotless i the text has to be the word. -/
theorem spells_iff_of_dotted (hdotted : 'ı' ∉ (Text.trim s).toList) :
    Spells s status ↔ Text.SameLetters (Text.trim s) status.name := by
  have hsame : (Text.trim s).toList.map Text.dotted = (Text.trim s).toList := by
    refine (List.map_congr_left ?_).trans (List.map_id _)
    intro c hc
    refine if_neg ?_
    rintro rfl
    exact hdotted hc
  rw [Spells, Text.withDots, hsame, String.ofList_toList]

/-- No word has a dotless i in it. -/
theorem not_sameLetters_of_dotless (hdotless : 'ı' ∈ (Text.trim s).toList) :
    ¬ Text.SameLetters (Text.trim s) status.name := by
  intro hletters
  have hmem : Char.toLower 'ı' ∈ status.name.toList.map Char.toLower := by
    rw [← hletters]
    exact List.mem_map_of_mem hdotless
  cases status <;> exact absurd hmem (by decide)

/-- The texts for a status are those with the letters of its word, unless the text spells a status with a
dotless i. -/
theorem parse?_exact_iff :
    (∀ status, parse? s = some status ↔ Text.SameLetters (Text.trim s) status.name) ↔
      'ı' ∉ (Text.trim s).toList ∨ ∀ status, ¬ Spells s status := by
  simp only [parse?_eq_some_iff]
  constructor
  · intro hexact
    by_cases hdotless : 'ı' ∈ (Text.trim s).toList
    · right
      intro status hspells
      exact not_sameLetters_of_dotless hdotless ((hexact status).1 hspells)
    · exact Or.inl hdotless
  · rintro (hdotted | hnone) status
    · exact spells_iff_of_dotted hdotted
    · by_cases hdotless : 'ı' ∈ (Text.trim s).toList
      · exact iff_of_false (hnone status) (not_sameLetters_of_dotless hdotless)
      · exact spells_iff_of_dotted hdotless

end Status

namespace Sql

section Steps

variable {α β ε : Type} {read : α → Except ε β} {x : α} {xs : List α} {e : ε}

theorem mapM_cons_of_ok {y : β} (hread : read x = .ok y) :
    (x :: xs).mapM read = (xs.mapM read).map (y :: ·) := by
  rw [List.mapM_cons, hread]
  rfl

theorem mapM_cons_of_error (hread : read x = .error e) : (x :: xs).mapM read = .error e := by
  rw [List.mapM_cons, hread]
  rfl

/-- All items are read if each one is. -/
theorem mapM_eq_ok_iff {ys : List β} :
    xs.mapM read = .ok ys ↔ List.Forall₂ (fun x y => read x = .ok y) xs ys := by
  induction xs generalizing ys with
  | nil =>
    constructor
    · rintro ⟨⟩
      exact .nil
    · rintro ⟨⟩
      rfl
  | cons x xs ih =>
    rw [List.forall₂_cons_left_iff]
    cases hread : read x with
    | error other =>
      rw [mapM_cons_of_error hread]
      exact iff_of_false nofun fun ⟨_, _, hok, _⟩ => nomatch hok
    | ok y =>
      rw [mapM_cons_of_ok hread]
      constructor
      · intro hall
        cases hlater : xs.mapM read with
        | error other =>
          rw [hlater] at hall
          cases hall
        | ok later =>
          rw [hlater] at hall
          cases hall
          exact ⟨y, later, rfl, ih.1 hlater, rfl⟩
      · rintro ⟨_, later, ⟨⟩, hlater, rfl⟩
        rw [ih.2 hlater]
        rfl

/-- The first item that is not read decides what is wrong. -/
theorem mapM_eq_error_iff :
    xs.mapM read = .error e ↔
      ∃ before x after, xs = before ++ x :: after ∧ (∀ w ∈ before, ∃ y, read w = .ok y) ∧
        read x = .error e := by
  constructor
  · intro hfails
    induction xs with
    | nil => cases hfails
    | cons x xs ih =>
      cases hread : read x with
      | error other =>
        rw [mapM_cons_of_error hread] at hfails
        cases hfails
        exact ⟨[], x, xs, rfl, nofun, hread⟩
      | ok y =>
        rw [mapM_cons_of_ok hread] at hfails
        have hlater : xs.mapM read = .error e := by
          cases hxs : xs.mapM read with
          | error other =>
            rw [hxs] at hfails
            cases hfails
            rfl
          | ok ys =>
            rw [hxs] at hfails
            cases hfails
        obtain ⟨before, last, after, rfl, hbefore, hlast⟩ := ih hlater
        exact ⟨x :: before, last, after, rfl, List.forall_mem_cons.2 ⟨⟨y, hread⟩, hbefore⟩, hlast⟩
  · rintro ⟨before, x, after, rfl, hbefore, hread⟩
    -- the items before are gone through one by one
    induction before with
    | nil => exact mapM_cons_of_error hread
    | cons w before ih =>
      obtain ⟨⟨y, hw⟩, hlater⟩ := List.forall_mem_cons.1 hbefore
      rw [List.cons_append, mapM_cons_of_ok hw, ih hlater]
      rfl

end Steps

namespace AttendanceRow

/-- The record has the status that the text of the row spells, and all else from the row. -/
def Shows (row : AttendanceRow) (record : AttendanceRecord) : Prop :=
  Status.Spells row.status record.status ∧ record.eventId = row.eventId ∧
    record.teamId = row.teamId ∧ record.userId = row.userId ∧ record.updatedAt = row.updatedAt

theorem record_eq_ok_iff {row : AttendanceRow} {record : AttendanceRecord} :
    row.record = .ok record ↔ row.Shows record := by
  obtain ⟨eventId, teamId, userId, status, updatedAt⟩ := record
  rw [Shows, ← Status.parse?_eq_some_iff, AttendanceRow.record]
  cases Status.parse? row.status with
  | none => simp
  | some read =>
    simp only [Except.ok.injEq, AttendanceRecord.mk.injEq, Option.some.injEq]
    constructor
    · rintro ⟨rfl, rfl, rfl, rfl, rfl⟩
      exact ⟨rfl, rfl, rfl, rfl, rfl⟩
    · rintro ⟨rfl, rfl, rfl, rfl, rfl⟩
      exact ⟨rfl, rfl, rfl, rfl, rfl⟩

theorem exists_record_iff {row : AttendanceRow} :
    (∃ record, row.record = .ok record) ↔ ∃ status, Status.Spells row.status status := by
  simp only [record_eq_ok_iff]
  constructor
  · rintro ⟨record, hspells, -⟩
    exact ⟨record.status, hspells⟩
  · rintro ⟨status, hspells⟩
    exact ⟨⟨row.eventId, row.teamId, row.userId, status, row.updatedAt⟩, hspells, rfl, rfl, rfl, rfl⟩

theorem record_eq_error_iff {row : AttendanceRow} {message : String} :
    row.record = .error message ↔
      (∀ status, ¬ Status.Spells row.status status) ∧
        message = Status.unknownMessage row.status := by
  rw [← Status.parse?_eq_none_iff, AttendanceRow.record]
  cases Status.parse? row.status with
  | none => simp [eq_comm]
  | some read => simp

theorem mapM_record_eq_ok_iff {rows : List AttendanceRow} {records : List AttendanceRecord} :
    rows.mapM record = .ok records ↔ List.Forall₂ Shows rows records := by
  simp only [mapM_eq_ok_iff, record_eq_ok_iff]

theorem mapM_record_eq_error_iff {rows : List AttendanceRow} {message : String} :
    rows.mapM record = .error message ↔
      ∃ before row after, rows = before ++ row :: after ∧
        (∀ earlier ∈ before, ∃ status, Status.Spells earlier.status status) ∧
        (∀ status, ¬ Status.Spells row.status status) ∧
        message = Status.unknownMessage row.status := by
  simp only [mapM_eq_error_iff, record_eq_error_iff, exists_record_iff]

end AttendanceRow

namespace Database

variable {replies : Nat → Except Failure Reply} {reply : Reply} {rows : List AttendanceRow}

/-- The rows of an event are asked for and read. -/
theorem exchange_listAttendance (id : EventId) (hreply : replies 0 = .ok reply)
    (hrows : reply.rows.mapM AttendanceRow.ofRow? = some rows) :
    exchange replies (answer (.listAttendance id)) [] =
      (rows.mapM AttendanceRow.record, [.run (.listAttendance id)]) := by
  change exchange replies (run (.listAttendance id) >>= fun reply => do
    let rows ← sensible (reply.rows.mapM AttendanceRow.ofRow?)
    (ExceptT.mk (pure (rows.mapM AttendanceRow.record)) : Query _)).run [] = _
  rw [exchange_run_bind, List.length_nil, hreply]
  simp only [hrows]
  rfl

/-- A text stands for a status exactly if it spells it.  So it has to be the word for it, blanks around it
and the case of Basic Latin letters aside, unless it spells a status with a dotless i.  The records of an
event are those that the rows show.  If the text of a row spells no status then there are none, and the
first such text is in the explanation. -/
theorem listAttendance_spelled (s : String) (id : EventId) (hreply : replies 0 = .ok reply)
    (hrows : reply.rows.mapM AttendanceRow.ofRow? = some rows) :
    (∀ status, Status.parse? s = some status ↔ Status.Spells s status) ∧
    ((∀ status, Status.parse? s = some status ↔ Text.SameLetters (Text.trim s) status.name) ↔
      'ı' ∉ (Text.trim s).toList ∨ ∀ status, ¬ Status.Spells s status) ∧
    ∃ result : Except String (List AttendanceRecord),
      exchange replies (answer (.listAttendance id)) [] = (result, [.run (.listAttendance id)]) ∧
      (∀ records, result = .ok records ↔ List.Forall₂ AttendanceRow.Shows rows records) ∧
      ∀ message, result = .error message ↔
        ∃ before row after, rows = before ++ row :: after ∧
          (∀ earlier ∈ before, ∃ status, Status.Spells earlier.status status) ∧
          (∀ status, ¬ Status.Spells row.status status) ∧
          message = "unknown attendance status '" ++ row.status ++ "'" := by
  refine ⟨fun _ => Status.parse?_eq_some_iff, Status.parse?_exact_iff, ?_⟩
  refine ⟨rows.mapM AttendanceRow.record, exchange_listAttendance id hreply hrows, ?_, ?_⟩
  · intro records
    exact AttendanceRow.mapM_record_eq_ok_iff
  · intro message
    exact AttendanceRow.mapM_record_eq_error_iff

/-- A row for a record with the given text for its status. -/
def cellsWith (text : String) : Row :=
  [("event_id", .id 1), ("team_id", .id 10), ("user_id", .id 177), ("status", .text text),
   ("updated_at", .time 0)]

/-- Nothing is read if the second of two rows has a text that spells no status. -/
theorem listAttendance_spelled_unknown :
    (∀ status, Status.parse? "maybe" ≠ some status) ∧
    ∃ reply : Reply, reply.rows = [cellsWith " accepted", cellsWith "maybe"] ∧
      exchange (fun _ => .ok reply) (answer (.listAttendance ⟨1⟩)) [] =
        (.error "unknown attendance status 'maybe'", [.run (.listAttendance ⟨1⟩)]) := by
  let reply : Reply := { rows := [cellsWith " accepted", cellsWith "maybe"] }
  let good : AttendanceRow :=
    { eventId := ⟨1⟩, teamId := ⟨10⟩, userId := ⟨177⟩, status := " accepted",
      updatedAt := ⟨Instant.second2000, 0, by decide⟩ }
  let bad : AttendanceRow := { good with status := "maybe" }
  have hrows : reply.rows.mapM AttendanceRow.ofRow? = some [good, bad] := by decide +kernel
  have hgood : ∀ earlier ∈ [good], ∃ status, Status.Spells earlier.status status := by
    intro earlier hearlier
    obtain rfl := List.mem_singleton.1 hearlier
    exact ⟨.accepted, by decide +kernel⟩
  have hbad : ∀ status, ¬ Status.Spells bad.status status := by
    intro status
    cases status <;> decide +kernel
  let replies : Nat → Except Failure Reply := fun _ => .ok reply
  have hreply : replies 0 = .ok reply := rfl
  obtain ⟨hparse, -, _, hexchange, -, herror⟩ := listAttendance_spelled "maybe" ⟨1⟩ hreply hrows
  obtain rfl := (herror "unknown attendance status 'maybe'").2
    ⟨[good], bad, [], rfl, hgood, hbad, by decide +kernel⟩
  exact ⟨fun status hstatus => hbad status ((hparse status).1 hstatus), reply, rfl, hexchange⟩

/-- A word without the dot on its i is read as a status, from a row too, although it is not the word for
it. -/
theorem exists_parse?_of_dotless :
    ∃ s : String, Status.parse? s = some .pending ∧
      (∀ status : Status, ¬ Text.SameLetters (Text.trim s) status.name) ∧
      ∃ record : AttendanceRecord, record.status = .pending ∧
        exchange (fun _ => .ok { rows := [cellsWith s] }) (answer (.listAttendance ⟨1⟩)) [] =
          (.ok [record], [.run (.listAttendance ⟨1⟩)]) := by
  let row : AttendanceRow :=
    { eventId := ⟨1⟩, teamId := ⟨10⟩, userId := ⟨177⟩, status := "PENDıNG",
      updatedAt := ⟨Instant.second2000, 0, by decide⟩ }
  let record : AttendanceRecord :=
    { eventId := ⟨1⟩, teamId := ⟨10⟩, userId := ⟨177⟩, status := .pending
      updatedAt := ⟨Instant.second2000, 0, by decide⟩ }
  have hrows : [cellsWith "PENDıNG"].mapM AttendanceRow.ofRow? = some [row] := by decide +kernel
  have hrecord : [row].mapM AttendanceRow.record = .ok [record] := by decide +kernel
  refine ⟨"PENDıNG", by decide +kernel, ?_, record, rfl, ?_⟩
  · intro status
    cases status <;> decide +kernel
  · exact (exchange_listAttendance ⟨1⟩ rfl hrows).trans (congrArg (Prod.mk · _) hrecord)

end Database

end Sql

end TeamCalendar
