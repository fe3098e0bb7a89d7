/-!
# Dialogues

A dialogue is a computation that asks questions of its surroundings and goes on with the answers.
Which questions there are, and what their answers look like, is laid down by an interface.  A
dialogue always comes to an end, whatever the answers are.

* `Dialogue.interpret` carries a dialogue out, given a way to answer each question in some monad.
-/

namespace TeamCalendar

/-- Questions, and the type of the answers to each. -/
structure Interface where
  /-- The questions. -/
  Question : Type
  /-- The answers to a question. -/
  Answer : Question → Type

/-- A computation that asks questions. -/
inductive Dialogue (I : Interface) (α : Type) where
  /-- The computation has come to its result. -/
  | done (value : α)
  /-- A question comes next, and the rest depends on its answer. -/
  | ask (question : I.Question) (next : I.Answer question → Dialogue I α)

namespace Dialogue

variable {I : Interface} {α β : Type}

/-- Goes on with a second dialogue when the first one has come to its result. -/
def bind (first : Dialogue I α) (next : α → Dialogue I β) : Dialogue I β :=
  match first with
  | .done value => next value
  | .ask question rest => .ask question fun answer => (rest answer).bind next

instance : Monad (Dialogue I) where
  pure := done
  bind := bind

/-- Asks one question. -/
def question (q : I.Question) : Dialogue I (I.Answer q) :=
  .ask q .done

/-- Carries a dialogue out with the given way to answer questions. -/
def interpret {m : Type → Type} [Monad m] (answer : (q : I.Question) → m (I.Answer q)) :
    Dialogue I α → m α
  | .done value => pure value
  | .ask q next => do
    let a ← answer q
    (next a).interpret answer

@[simp]
theorem done_bind (value : α) (next : α → Dialogue I β) : (done value).bind next = next value :=
  rfl

@[simp]
theorem ask_bind (q : I.Question) (rest : I.Answer q → Dialogue I α) (next : α → Dialogue I β) :
    (ask q rest).bind next = ask q fun answer => (rest answer).bind next :=
  rfl

@[simp]
theorem bind_done (first : Dialogue I α) : first.bind done = first := by
  induction first with
  | done value => rfl
  | ask q rest ih => simp [ih]

theorem bind_assoc {γ : Type} (first : Dialogue I α) (second : α → Dialogue I β)
    (third : β → Dialogue I γ) :
    (first.bind second).bind third = first.bind fun value => (second value).bind third := by
  induction first with
  | done value => rfl
  | ask q rest ih => simp [ih]

instance : LawfulMonad (Dialogue I) :=
  LawfulMonad.mk' (Dialogue I) bind_done (fun _ _ => rfl) bind_assoc

theorem interpret_bind {m : Type → Type} [Monad m] [LawfulMonad m]
    (answer : (q : I.Question) → m (I.Answer q)) (first : Dialogue I α)
    (next : α → Dialogue I β) :
    (first.bind next).interpret answer =
      first.interpret answer >>= fun value => (next value).interpret answer := by
  induction first with
  | done value => simp [interpret]
  | ask q rest ih => simp [interpret, ih]

end Dialogue

end TeamCalendar
