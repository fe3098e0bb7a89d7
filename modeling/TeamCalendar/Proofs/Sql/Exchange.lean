import TeamCalendar.Sql.Database

/-!
# Exchanges with a database

A dialogue is carried out with a server of which only the replies are known, one for each statement
in the order in which they come.  What it is asked is kept.

* `Database.exchange_run_bind` is what one statement does.
* `Database.exchange_runAll_of_ok` and `Database.exchange_runAll_of_error` are what statements one
  after another do.
-/

namespace TeamCalendar.Sql.Database

variable {α β : Type}

/-- A server with the given replies, by the number of questions before them.  It opens and closes
transactions. -/
def serve (replies : Nat → Except Failure Reply) :
    (q : Question) → StateM (List Question) (Answer q)
  | .run statement => fun asked => (replies asked.length, asked ++ [.run statement])
  | .begin => fun asked => (.ok (), asked ++ [.begin])
  | .commit => fun asked => (.ok (), asked ++ [.commit])
  | .rollback => fun asked => ((), asked ++ [.rollback])

/-- The result of a dialogue with a server, and all that the server has been asked then. -/
def exchange (replies : Nat → Except Failure Reply) (dialogue : Dialogue Sql α)
    (asked : List Question) : α × List Question :=
  (dialogue.interpret (serve replies)).run asked

variable {replies : Nat → Except Failure Reply} {failure : Failure}

theorem exchange_pure (value : α) (asked : List Question) :
    exchange replies (pure value : Query α).run asked = (.ok value, asked) :=
  rfl

theorem exchange_map (f : α → β) (query : Query α) (asked : List Question) :
    exchange replies (f <$> query).run asked =
      ((exchange replies query.run asked).1.map f, (exchange replies query.run asked).2) := by
  rw [ExceptT.run_map, map_eq_pure_bind]
  exact congrFun (Dialogue.interpret_bind (serve replies) query.run _) asked

/-- A statement is asked, and an error ends the dialogue. -/
theorem exchange_run_bind (statement : Statement) (next : Reply → Query α)
    (asked : List Question) :
    exchange replies (run statement >>= next).run asked =
      match replies asked.length with
      | .ok reply => exchange replies (next reply).run (asked ++ [.run statement])
      | .error failure => (.error failure.message, asked ++ [.run statement]) := by
  have hnext : exchange replies (run statement >>= next).run asked =
      exchange replies (ExceptT.bindCont next ((replies asked.length).mapError Failure.message))
        (asked ++ [.run statement]) := rfl
  rw [hnext]
  cases replies asked.length with
  | ok reply => rfl
  | error failure => rfl

/-- A count with the rows that some replies report, in 64 bits. -/
def count (written : UInt64) (given : List Reply) : UInt64 :=
  given.foldl (fun written reply => written + reply.affected) written

/-- Statements that all succeed are all asked, and what they report is added up. -/
theorem exchange_foldlM_of_ok {statements : List Statement} {given : List Reply}
    (written : UInt64) (asked : List Question)
    (h : (List.range' asked.length statements.length).map replies = given.map .ok) :
    exchange replies (statements.foldlM (fun written statement => do
        pure (written + (← run statement).affected)) written : Query UInt64).run asked =
      (.ok (count written given), asked ++ statements.map .run) := by
  -- the server counts on from what it has been asked, so this is general
  induction statements generalizing written asked given with
  | nil =>
    obtain rfl : given = [] := List.map_eq_nil_iff.1 h.symm
    rw [List.foldlM_nil, exchange_pure, List.map_nil, List.append_nil]
    rfl
  | cons statement statements ih =>
    cases given with
    | nil => cases h
    | cons reply given =>
      rw [List.length_cons, List.range'_succ, List.map_cons, List.map_cons, List.cons.injEq] at h
      obtain ⟨hreply, hlater⟩ := h
      have hasked : asked.length + 1 = (asked ++ [Question.run statement]).length := by
        rw [List.length_append, List.length_singleton]
      rw [hasked] at hlater
      rw [List.foldlM_cons, bind_assoc, exchange_run_bind, hreply]
      simp only [pure_bind]
      rw [ih _ _ hlater, List.map_cons, List.append_assoc, List.singleton_append]
      rfl

/-- The first statement that fails is the last one that is asked. -/
theorem exchange_foldlM_of_error {statements : List Statement} {given : List Reply}
    (written : UInt64) (asked : List Question) (hlength : given.length < statements.length)
    (h : (List.range' asked.length given.length).map replies = given.map .ok)
    (hfailure : replies (asked.length + given.length) = .error failure) :
    exchange replies (statements.foldlM (fun written statement => do
        pure (written + (← run statement).affected)) written : Query UInt64).run asked =
      (.error failure.message, asked ++ (statements.take (given.length + 1)).map .run) := by
  induction statements generalizing written asked given with
  | nil => cases hlength
  | cons statement statements ih =>
    cases given with
    | nil =>
      have hfirst : replies asked.length = .error failure := hfailure
      rw [List.foldlM_cons, bind_assoc, exchange_run_bind, hfirst]
      rfl
    | cons reply given =>
      rw [List.length_cons, List.range'_succ, List.map_cons, List.map_cons, List.cons.injEq] at h
      obtain ⟨hreply, hlater⟩ := h
      have hasked : asked.length + 1 = (asked ++ [Question.run statement]).length := by
        rw [List.length_append, List.length_singleton]
      rw [List.length_cons, ← Nat.succ_add_eq_add_succ, Nat.succ_eq_add_one, hasked] at hfailure
      rw [hasked] at hlater
      rw [List.foldlM_cons, bind_assoc, exchange_run_bind, hreply]
      simp only [pure_bind]
      rw [ih _ _ (Nat.lt_of_succ_lt_succ hlength) hlater hfailure, List.length_cons,
        List.take_succ_cons, List.map_cons, List.append_assoc, List.singleton_append]

variable {statements : List Statement} {given : List Reply}

/-- The count of statements that all succeed. -/
theorem exchange_runAll_of_ok
    (h : (List.range' 0 statements.length).map replies = given.map .ok) :
    exchange replies (runAll statements).run [] =
      (.ok (count 0 given), statements.map .run) := by
  have hrun := exchange_foldlM_of_ok 0 [] h
  rw [runAll, hrun, List.nil_append]

/-- The failure of statements of which one fails. -/
theorem exchange_runAll_of_error (hlength : given.length < statements.length)
    (h : (List.range' 0 given.length).map replies = given.map .ok)
    (hfailure : replies given.length = .error failure) :
    exchange replies (runAll statements).run [] =
      (.error failure.message, (statements.take (given.length + 1)).map .run) := by
  rw [← Nat.zero_add given.length] at hfailure
  have hrun := exchange_foldlM_of_error 0 [] hlength h hfailure
  rw [runAll, hrun, List.nil_append]

end TeamCalendar.Sql.Database
