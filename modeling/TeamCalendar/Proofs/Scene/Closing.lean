import TeamCalendar.Proofs.Scene

/-!
# Services that leave the storage alone

What a service asks of the directories, of the clock and of the counters does not touch the storage.

* `Dialogue.Closing` says that nothing is asked of the storage any more, and `Service.Closing` says
  so of a service.
-/

namespace TeamCalendar

/-- Whether a question goes to the storage. -/
def Surroundings.Question.isStored : Surroundings.Question → Bool
  | storage _ => true
  | _ => false

namespace Dialogue

variable {α β : Type}

/-- A dialogue asks nothing of the storage any more. -/
def Closing : Dialogue Surroundings α → Prop
  | .done _ => True
  | .ask q next => Surroundings.Question.isStored q = false ∧ ∀ answer, (next answer).Closing

theorem Closing.bind {first : Dialogue Surroundings β} {next : β → Dialogue Surroundings α}
    (h : first.Closing) (hnext : ∀ value, (next value).Closing) : (first.bind next).Closing := by
  induction first with
  | done value => exact hnext value
  | ask q rest ih => exact ⟨h.1, fun answer => ih answer (h.2 answer)⟩

end Dialogue

namespace Service

variable {α β : Type}

/-- A service asks nothing of the storage. -/
def Closing (service : Service α) : Prop :=
  Dialogue.Closing (ExceptT.run service)

theorem closing_pure (value : α) : Closing (pure value) :=
  trivial

theorem closing_throw (refusal : Refusal) : Closing (throw refusal : Service α) :=
  trivial

theorem closing_ask {q : Surroundings.Question} (hq : q.isStored = false) : Closing (ask q) :=
  ⟨hq, fun _ => trivial⟩

theorem Closing.bind {first : Service β} {next : β → Service α} (h : Closing first)
    (hnext : ∀ value, Closing (next value)) : Closing (first >>= next) := by
  refine Dialogue.Closing.bind h fun result => ?_
  cases result with
  | ok value => exact hnext value
  | error refusal => trivial

theorem closing_settle (deadline : Nat) (name : String) (answer : Timed (Except String α)) :
    Closing (settle deadline name answer) := by
  rw [settle]
  split
  · exact (closing_ask rfl).bind fun _ => closing_throw _
  · split
    · exact closing_pure _
    · exact (closing_ask rfl).bind fun _ => closing_throw _

theorem closing_stored (answer : Timed (Except String α)) : Closing (stored answer) := by
  rw [stored]
  split
  · exact closing_pure _
  · exact (closing_ask rfl).bind fun _ => closing_throw _

/-- A success is counted and made known without the storage. -/
theorem closing_announce (occurrence : Occurrence) (kind : ChangeKind) (event : Event)
    (actorId : UserId) (attendanceStatus : Option Status) (value : α) :
    Closing (do
      count occurrence
      publish kind event actorId attendanceStatus
      pure value : Service α) :=
  ⟨rfl, fun _ => ⟨rfl, fun _ => ⟨rfl, fun _ => trivial⟩⟩⟩

end Service

end TeamCalendar
