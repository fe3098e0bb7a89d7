import TeamCalendar.Service.Commands
import TeamCalendar.Service.Queries

/-!
# Conversations

What a service has asked of its surroundings, and what it has been answered, makes up a
talk.  Nothing is assumed of the answers here: any directory, any clock and any storage may stand
behind them.

* `Service.converse` carries a request out with someone who answers, and keeps the talk.
* `Service.Keeps` says that a request asks only what is allowed after what has been said, and ends
  as it should, whatever the answers are.  There is a rule for each way to put services together.
-/

namespace TeamCalendar

/-- A question to the surroundings and its answer. -/
structure Exchange where
  question : Surroundings.Question
  answer : Surroundings.Answer question

/-- What has been asked and answered, the latest exchange first. -/
abbrev Talk :=
  List Exchange

/-- What has been asked, the latest question first. -/
def Talk.questions (talk : Talk) : List Surroundings.Question :=
  talk.map (·.question)

/-- Someone who answers questions, and may go by all that has been said before. -/
abbrev Respondent :=
  Talk → (q : Surroundings.Question) → Surroundings.Answer q

/-- Every question was allowed when it was asked. -/
def Talk.Lawful (allowed : Talk → Surroundings.Question → Prop) : Talk → Prop
  | [] => True
  | exchange :: past => allowed past exchange.question ∧ Talk.Lawful allowed past

theorem Talk.Lawful.of_append {allowed : Talk → Surroundings.Question → Prop} {later past : Talk}
    (h : Talk.Lawful allowed (later ++ past)) : Talk.Lawful allowed past := by
  induction later with
  | nil => exact h
  | cons exchange later ih => exact ih h.2

namespace Dialogue

variable {α β : Type} {allowed : Talk → Surroundings.Question → Prop}
variable {ends ends' : Talk → α → Prop} {past : Talk}

/-- Carries a dialogue out with someone who answers.  What has been said goes on from a given talk.
-/
def converse (respond : Respondent) : Dialogue Surroundings α → Talk → α × Talk
  | .done value, past => (value, past)
  | .ask q next, past => (next (respond past q)).converse respond (⟨q, respond past q⟩ :: past)

/-- Whatever the answers are, a dialogue asks only what is allowed, and ends as it should. -/
def Keeps (allowed : Talk → Surroundings.Question → Prop) (ends : Talk → α → Prop) :
    Dialogue Surroundings α → Talk → Prop
  | .done value, past => ends past value
  | .ask q next, past =>
    allowed past q ∧ ∀ answer, (next answer).Keeps allowed ends (⟨q, answer⟩ :: past)

theorem Keeps.mono {dialogue : Dialogue Surroundings α} (h : dialogue.Keeps allowed ends past)
    (hends : ∀ talk value, ends talk value → ends' talk value) :
    dialogue.Keeps allowed ends' past := by
  induction dialogue generalizing past with
  | done value => exact hends past value h
  | ask q next ih => exact ⟨h.1, fun answer => ih answer (h.2 answer)⟩

theorem keeps_bind {first : Dialogue Surroundings β} {next : β → Dialogue Surroundings α}
    (h : first.Keeps allowed (fun talk value => (next value).Keeps allowed ends talk) past) :
    (first.bind next).Keeps allowed ends past := by
  induction first generalizing past with
  | done value => exact h
  | ask q rest ih => exact ⟨h.1, fun answer => ih answer (h.2 answer)⟩

/-- A dialogue that keeps to what is allowed does so with anyone who answers. -/
theorem Keeps.converse {dialogue : Dialogue Surroundings α}
    (h : dialogue.Keeps allowed ends past) (hpast : Talk.Lawful allowed past)
    (respond : Respondent) :
    Talk.Lawful allowed (dialogue.converse respond past).2 ∧
      ends (dialogue.converse respond past).2 (dialogue.converse respond past).1 := by
  induction dialogue generalizing past with
  | done value => exact ⟨hpast, h⟩
  | ask q next ih => exact ih _ (h.2 _) ⟨h.1, hpast⟩

end Dialogue

namespace Service

variable {α β : Type} {allowed : Talk → Surroundings.Question → Prop}
variable {ends ends' : Talk → α → Prop} {fails fails' : Talk → Refusal → Prop} {past : Talk}

/-- Carries a request out with someone who answers. -/
def converse (respond : Respondent) (service : Service α) : Except Refusal α × Talk :=
  (ExceptT.run service).converse respond []

/-- How a request should end, put together from what is to hold after a success and after a
refusal. -/
def outcome (ends : Talk → α → Prop) (fails : Talk → Refusal → Prop) (talk : Talk) :
    Except Refusal α → Prop
  | .ok value => ends talk value
  | .error refusal => fails talk refusal

/-- Whatever the answers are, a service asks only what is allowed, and ends as it should. -/
def Keeps (allowed : Talk → Surroundings.Question → Prop) (ends : Talk → α → Prop)
    (fails : Talk → Refusal → Prop) (service : Service α) (past : Talk) : Prop :=
  (ExceptT.run service).Keeps allowed (outcome ends fails) past

theorem keeps_pure {value : α} (h : ends past value) :
    Keeps allowed ends fails (pure value) past :=
  h

theorem keeps_throw {refusal : Refusal} (h : fails past refusal) :
    Keeps allowed ends fails (throw refusal : Service α) past :=
  h

theorem Keeps.mono {service : Service α} (h : Keeps allowed ends fails service past)
    (hends : ∀ talk value, ends talk value → ends' talk value)
    (hfails : ∀ talk refusal, fails talk refusal → fails' talk refusal) :
    Keeps allowed ends' fails' service past := by
  refine Dialogue.Keeps.mono h fun talk result hresult => ?_
  cases result with
  | ok value => exact hends talk value hresult
  | error refusal => exact hfails talk refusal hresult

theorem keeps_bind {first : Service β} {next : β → Service α}
    (h : Keeps allowed (fun talk value => Keeps allowed ends fails (next value) talk) fails first
      past) :
    Keeps allowed ends fails (first >>= next) past := by
  refine Dialogue.keeps_bind (Dialogue.Keeps.mono h fun talk result hresult => ?_)
  cases result with
  | ok value => exact hresult
  | error refusal => exact hresult

theorem keeps_tryCatch {body : Service α} {handler : Refusal → Service α}
    (h : Keeps allowed ends (fun talk refusal => Keeps allowed ends fails (handler refusal) talk)
      body past) :
    Keeps allowed ends fails (tryCatch body handler) past := by
  refine Dialogue.keeps_bind (Dialogue.Keeps.mono h fun talk result hresult => ?_)
  cases result with
  | ok value => exact hresult
  | error refusal => exact hresult

theorem keeps_ask {q : Surroundings.Question} {ends : Talk → Surroundings.Answer q → Prop}
    (hallowed : allowed past q) (h : ∀ answer, ends (⟨q, answer⟩ :: past) answer) :
    Keeps allowed ends fails (ask q) past :=
  ⟨hallowed, h⟩

theorem keeps_map {f : β → α} {service : Service β}
    (h : Keeps allowed (fun talk value => ends talk (f value)) fails service past) :
    Keeps allowed ends fails (f <$> service) past := by
  rw [map_eq_pure_bind]
  exact keeps_bind h

theorem keeps_ofFlaw {result : Except EventFlaw α}
    (hok : ∀ value, result = .ok value → ends past value)
    (herror : ∀ flaw, result = .error flaw → fails past (.ofFlaw flaw)) :
    Keeps allowed ends fails (ofFlaw result) past := by
  cases result with
  | ok value => exact keeps_pure (hok value rfl)
  | error flaw => exact keeps_throw (herror flaw rfl)

end Service

end TeamCalendar
