import Mathlib.Data.List.Forall2
import TeamCalendar.Proofs.Sql.Exchange
import TeamCalendar.Proofs.Sql.Reading

/-!
# Attendance in bulk

Attendance records are written with as few statements as the limit on parameters allows.  What the
statements say is read from their texts, not from the records.

* `Statement.insertion?_insertAttendance` and `Statement.inserted?_insertAttendance` read a
  statement: it has the numbers from 1 on as places, and the values of its records there.
* `Database.insertAttendance_sends` says which statements are sent, and what comes of the replies;
  `Database.insertAttendance_ne_sum` is about replies that report too many rows.
-/

namespace TeamCalendar

/-- The values of an attendance record by column. -/
def AttendanceRecord.columns (record : AttendanceRecord) : List (String × Sql.Parameter) :=
  [("event_id", .id record.eventId.bits), ("team_id", .id record.teamId.bits),
   ("user_id", .id record.userId.bits),
   ("status", .text
      (match record.status with
        | .pending => "PENDING"
        | .accepted => "ACCEPTED"
        | .declined => "DECLINED"
        | .tentative => "TENTATIVE")),
   ("updated_at", .time record.updatedAt)]

namespace Sql

namespace Statement

variable {records : List AttendanceRecord}

/-- The columns of an attendance record. -/
def attendanceNames : List String :=
  ["event_id", "team_id", "user_id", "status", "updated_at"]

/-- The numbers of the places in the rows of some attendance records. -/
def attendancePlaces (rows : Nat) : List (List Nat) :=
  (List.range rows).map fun row => List.range' (attendanceWidth * row + 1) attendanceWidth

/-- The numbers go through all rows without a gap. -/
theorem flatten_attendancePlaces (rows : Nat) :
    (attendancePlaces rows).flatten = List.range' 1 (attendanceWidth * rows) := by
  induction rows with
  | zero => rfl
  | succ rows ih =>
    rw [attendancePlaces] at ih ⊢
    rw [List.range_succ, List.map_append, List.flatten_append, ih, List.map_singleton,
      List.flatten_singleton, Nat.mul_succ, Nat.add_comm (attendanceWidth * rows) 1,
      List.range'_append_1]

theorem scan_placeGroup (first count : Nat) :
    Token.scan none (placeGroup first count).toList =
      .mark '(' :: (Insertion.placeTokens (List.range' first count) ++ [.mark ')']) := by
  have hplace (number : Nat) : (s!"${number}").toList = '$' :: Nat.toDigits 10 number := by
    rw [String.toList_append]
    exact congrArg _ (String.toList_ofList)
  have htext : (placeGroup first count).toList =
      '(' :: ([',', ' '].intercalate
        ((List.range' first count).map fun number => '$' :: Nat.toDigits 10 number) ++ [')']) := by
    rw [placeGroup, String.toList_append, String.toList_append, String.toList_intercalate,
      List.map_map]
    simp only [Function.comp_def, hplace]
    rfl
  rw [htext, Token.scan_parenthesized, Token.scan_intercalate, List.map_map]
  simp only [Function.comp_def, Token.scan_place]
  rfl

theorem scan_placeGroups (rows : Nat) :
    Token.scan none (placeGroups rows).toList = Insertion.rowTokens (attendancePlaces rows) := by
  have htext : (placeGroups rows).toList = [',', ' '].intercalate
      ((List.range rows).map fun row =>
        (placeGroup (attendanceWidth * row + 1) attendanceWidth).toList) := by
    rw [placeGroups, String.toList_intercalate, List.map_map]
    rfl
  rw [htext, Token.scan_intercalate, Insertion.rowTokens, attendancePlaces, List.map_map,
    List.map_map]
  simp only [Function.comp_def, scan_placeGroup]

/-- The text says that rows with all places in order are inserted. -/
theorem insertion?_insertAttendance (hrecords : records ≠ []) :
    (insertAttendance records).insertion? = some
      { table := "attendance"
        columns := attendanceNames
        rows := attendancePlaces records.length } := by
  have hplaces : attendancePlaces records.length ≠ [] := by
    rw [attendancePlaces, Ne, List.map_eq_nil_iff, List.range_eq_nil, List.length_eq_zero_iff]
    exact hrecords
  have hnonempty : ∀ row ∈ attendancePlaces records.length, row ≠ [] := by
    intro row hrow
    obtain ⟨_, -, rfl⟩ := List.mem_map.1 hrow
    exact List.cons_ne_nil _ _
  obtain ⟨tokens, htokens, hread⟩ := Insertion.rows?_rowTokens hplaces hnonempty
  have htext : (insertAttendance records).text.toList =
      "INSERT INTO attendance (event_id, team_id, user_id, status, updated_at) VALUES".toList ++
        ' ' :: (placeGroups records.length).toList := by
    have hwhole : (insertAttendance records).text =
        "INSERT INTO attendance (event_id, team_id, user_id, status, updated_at) VALUES" ++ " " ++
          placeGroups records.length := rfl
    rw [hwhole, String.toList_append, String.toList_append, List.append_assoc]
    rfl
  have hhead : Token.scan none
      "INSERT INTO attendance (event_id, team_id, user_id, status, updated_at) VALUES".toList =
      [.word "INSERT", .word "INTO", .word "attendance", .mark '(', .word "event_id", .mark ',',
       .word "team_id", .mark ',', .word "user_id", .mark ',', .word "status", .mark ',',
       .word "updated_at", .mark ')', .word "VALUES"] := by
    decide
  have hblank : Token.start? ' ' = none := by decide
  rw [insertion?, htext, Token.scan_append_cons (by decide), hhead, hblank, scan_placeGroups,
    htokens]
  have hcolumns : Insertion.names?
      (.word "event_id" :: .mark ',' :: .word "team_id" :: .mark ',' :: .word "user_id" ::
        .mark ',' :: .word "status" :: .mark ',' :: .word "updated_at" :: .mark ')' ::
        .word "VALUES" :: .mark '(' :: tokens) =
      some (attendanceNames,
        .mark ')' :: .word "VALUES" :: .mark '(' :: tokens) := rfl
  simp only [List.cons_append, List.nil_append, Insertion.ofTokens?, hcolumns, hread]
  rfl

/-- The parameters of a record are its values. -/
theorem attendanceParameters_eq (record : AttendanceRecord) :
    attendanceParameters record = record.columns.map (·.2) := by
  rw [attendanceParameters, AttendanceRecord.columns]
  cases record.status <;> rfl

theorem length_flatMap_attendanceParameters (records : List AttendanceRecord) :
    (records.flatMap attendanceParameters).length = attendanceWidth * records.length := by
  induction records with
  | nil => rfl
  | cons record records ih =>
    rw [List.flatMap_cons, List.length_append, ih, length_attendanceParameters, List.length_cons,
      Nat.mul_succ, Nat.add_comm]

/-- A row has the values of its record if it has the places after those of the records before. -/
theorem values?_attendance {statement : Statement} (before : List AttendanceRecord)
    (record : AttendanceRecord) (after : List AttendanceRecord)
    (h : statement.parameters = before.flatMap attendanceParameters ++
      (record :: after).flatMap attendanceParameters) :
    statement.values? attendanceNames
        (List.range' (attendanceWidth * before.length + 1) attendanceWidth) =
      some record.columns := by
  rw [List.flatMap_cons] at h
  have hread := mapM_parameter? (before.flatMap attendanceParameters) h
  rw [length_flatMap_attendanceParameters, length_attendanceParameters] at hread
  rw [values?, hread, attendanceParameters_eq]
  rfl

theorem mapM_values?_attendance {statement : Statement} (before records : List AttendanceRecord)
    (h : statement.parameters = before.flatMap attendanceParameters ++
      records.flatMap attendanceParameters) :
    ((List.range' before.length records.length).map fun row =>
        List.range' (attendanceWidth * row + 1) attendanceWidth).mapM
        (statement.values? attendanceNames) =
      some (records.map AttendanceRecord.columns) := by
  -- each record joins those before it, which tell the number of the next place
  induction records generalizing before with
  | nil => rfl
  | cons record records ih =>
    have hfirst := values?_attendance before record records h
    have hlater := ih (before ++ [record]) (by
      rw [h, List.flatMap_append, List.flatMap_singleton, List.flatMap_cons, List.append_assoc])
    rw [List.length_append, List.length_singleton] at hlater
    rw [List.length_cons, List.range'_succ, List.map_cons, List.mapM_cons, hfirst, hlater]
    rfl

/-- The values at the places of each row are those of the record that it stands for. -/
theorem inserted?_insertAttendance (hrecords : records ≠ []) :
    (insertAttendance records).inserted? = some (records.map AttendanceRecord.columns) := by
  have hparameters : (insertAttendance records).parameters = [].flatMap attendanceParameters ++
      records.flatMap attendanceParameters := rfl
  rw [inserted?, insertion?_insertAttendance hrecords, Option.bind_eq_bind, Option.bind_some,
    attendancePlaces, List.range_eq_range']
  exact mapM_values?_attendance [] records hparameters

/-- A statement inserts attendance records: its text has a row of places for each record, which
number the parameters from 1 on, and the values of the rows are those of the records. -/
structure Inserts (statement : Statement) (batch : List AttendanceRecord) : Prop where
  insertion : ∃ insertion, statement.insertion? = some insertion ∧
    insertion.table = "attendance" ∧ insertion.returning = [] ∧
    insertion.rows.length = batch.length ∧ (∀ row ∈ insertion.rows, row.length = 5) ∧
    insertion.rows.flatten = List.range' 1 (5 * batch.length)
  parameters_length : statement.parameters.length = 5 * batch.length
  parameters_length_le : statement.parameters.length ≤ 65535
  inserted : statement.inserted? = some (batch.map AttendanceRecord.columns)

/-- Some records, but not too many, are inserted by their statement. -/
theorem inserts_insertAttendance (hmin : 1 ≤ records.length) (hmax : records.length ≤ 13107) :
    (insertAttendance records).Inserts records := by
  have hrecords : records ≠ [] := List.ne_nil_of_length_pos hmin
  have hlength : (insertAttendance records).parameters.length = 5 * records.length :=
    length_flatMap_attendanceParameters records
  have hwidth : ∀ row ∈ attendancePlaces records.length, row.length = 5 := by
    intro row hrow
    obtain ⟨_, -, rfl⟩ := List.mem_map.1 hrow
    rfl
  refine ⟨⟨_, insertion?_insertAttendance hrecords, rfl, rfl, ?_, hwidth,
    flatten_attendancePlaces records.length⟩, hlength, ?_, inserted?_insertAttendance hrecords⟩
  · rw [attendancePlaces, List.length_map, List.length_range]
  · rw [hlength]
    omega

/-- There are as many statements as it takes, and no more. -/
theorem length_insertAllAttendance (records : List AttendanceRecord) :
    (insertAllAttendance records).length = (records.length + 13106) / 13107 := by
  rw [insertAllAttendance, List.length_map, length_chunks]
  rfl

end Statement

namespace Database

/-- A count is a sum, as far as it fits into 64 bits. -/
theorem toNat_count (written : UInt64) (given : List Reply) :
    (count written given).toNat =
      (written.toNat + (given.map fun reply => reply.affected.toNat).sum) % UInt64.size := by
  induction given generalizing written with
  | nil => exact (Nat.mod_eq_of_lt written.toNat_lt).symm
  | cons reply given ih =>
    have hcount : count written (reply :: given) = count (written + reply.affected) given := rfl
    have hadd : (written + reply.affected).toNat =
        (written.toNat + reply.affected.toNat) % UInt64.size := UInt64.toNat_add _ _
    rw [hcount, ih, hadd, Nat.mod_add_mod, Nat.add_assoc, List.map_cons, List.sum_cons]

theorem exchange_insertAttendance (replies : Nat → Except Failure Reply)
    (records : List AttendanceRecord) (asked : List Question) :
    exchange replies (answer (.insertAttendance records)) asked =
      ((exchange replies (runAll (Statement.insertAllAttendance records)).run asked).1.map
          UInt64.toNat,
        (exchange replies (runAll (Statement.insertAllAttendance records)).run asked).2) :=
  exchange_map UInt64.toNat (runAll (Statement.insertAllAttendance records)) asked

/-- Attendance records are sent in batches that fit into statements, one after another: all of them
once and in order, with a single statement if they fit into one.  As long as the server succeeds
the statements go on, and what it reports is added up in 64 bits; its first failure is the last
reply that is asked for, and the answer. -/
theorem insertAttendance_sends (records : List AttendanceRecord)
    (replies : Nat → Except Failure Reply) :
    ∃ (batches : List (List AttendanceRecord)) (statements : List Statement),
      batches.flatten = records ∧
      (∀ batch ∈ batches, 1 ≤ batch.length ∧ batch.length ≤ 13107) ∧
      (records = [] → statements = []) ∧
      (records ≠ [] → records.length ≤ 13107 → statements.length = 1) ∧
      List.Forall₂ Statement.Inserts statements batches ∧
      (∀ given : List Reply,
        (List.range statements.length).map replies = given.map .ok →
        exchange replies (answer (.insertAttendance records)) [] =
          (.ok ((given.map fun reply => reply.affected.toNat).sum % UInt64.size),
            statements.map .run)) ∧
      (∀ (given : List Reply) (failure : Failure), given.length < statements.length →
        (List.range given.length).map replies = given.map .ok →
        replies given.length = .error failure →
        exchange replies (answer (.insertAttendance records)) [] =
          (.error failure.message, (statements.take (given.length + 1)).map .run)) := by
  have hbatch : ∀ batch ∈ chunks (Statement.maxAttendanceRows - 1) records,
      1 ≤ batch.length ∧ batch.length ≤ 13107 := fun _ hmem => length_of_mem_chunks hmem
  refine ⟨chunks (Statement.maxAttendanceRows - 1) records, Statement.insertAllAttendance records,
    flatten_chunks _ records, hbatch, ?none, ?single, ?inserts, ?ok, ?error⟩
  case none =>
    rintro rfl
    rw [Statement.insertAllAttendance, chunks_nil, List.map_nil]
  case single =>
    intro hne hlength
    have hsome := List.length_pos_iff.2 hne
    rw [Statement.length_insertAllAttendance]
    omega
  case inserts =>
    rw [Statement.insertAllAttendance, List.forall₂_map_left_iff, List.forall₂_same]
    exact fun batch hmem =>
      Statement.inserts_insertAttendance (hbatch batch hmem).1 (hbatch batch hmem).2
  case ok =>
    intro given hgiven
    rw [List.range_eq_range'] at hgiven
    have hrun := exchange_runAll_of_ok hgiven
    have hcount := toNat_count 0 given
    rw [UInt64.toNat_zero, Nat.zero_add] at hcount
    rw [exchange_insertAttendance, hrun, ← hcount]
    rfl
  case error =>
    intro given failure hlength hgiven hfailure
    rw [List.range_eq_range'] at hgiven
    have hrun := exchange_runAll_of_error hlength hgiven hfailure
    rw [exchange_insertAttendance, hrun]
    rfl

end Database

end Sql

namespace Sample

/-- A record for each of some users, of whom there is one more than a statement takes. -/
def turnout : List AttendanceRecord :=
  (List.range 13108).map fun n =>
    { eventId := ⟨1⟩
      teamId := ⟨10⟩
      userId := ⟨.ofNat 128 (n + 1)⟩
      status := .pending
      updatedAt := .epoch }

/-- Replies that report as many rows as 64 bits can count, and then another one. -/
def excess : List Sql.Reply :=
  [{ affected := 18446744073709551615 }, { affected := 1 }]

end Sample

/-- A server may report more rows than 64 bits can count.  Then the answer is not their sum. -/
theorem Sql.Database.insertAttendance_ne_sum :
    ∃ asked : List Question,
      exchange (fun n => .ok (Sample.excess.getD n {})) (answer (.insertAttendance Sample.turnout)) [] =
        (.ok 0, asked) ∧
      asked.length = Sample.excess.length ∧
      (Sample.excess.map fun reply => reply.affected.toNat).sum = 18446744073709551616 := by
  have hlength : (Statement.insertAllAttendance Sample.turnout).length = 2 := by
    rw [Statement.length_insertAllAttendance, Sample.turnout, List.length_map, List.length_range]
  have hgiven : (List.range' 0 (Statement.insertAllAttendance Sample.turnout).length).map
      (fun n => (.ok (Sample.excess.getD n {}) : Except Failure Reply)) =
      Sample.excess.map .ok := by
    rw [hlength]
    rfl
  refine ⟨(Statement.insertAllAttendance Sample.turnout).map .run, ?_, ?_, rfl⟩
  · rw [exchange_insertAttendance, exchange_runAll_of_ok hgiven]
    rfl
  · rw [List.length_map, hlength]
    rfl

end TeamCalendar
