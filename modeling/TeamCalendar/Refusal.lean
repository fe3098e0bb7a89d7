import TeamCalendar.Event

/-!
# Refusals

Why a request is not fulfilled.
-/

namespace TeamCalendar

/-- The reason why a request is not fulfilled. -/
inductive Refusal where
  /-- What is asked for is not acceptable. -/
  | validation (reason : String)
  /-- The requester may not do it. -/
  | forbidden
  /-- What it is about does not exist. -/
  | notFound (what : String)
  /-- Another service failed. -/
  | unavailable (cause : String)
  /-- The storage failed. -/
  | storage (cause : String)
  deriving DecidableEq

namespace Refusal

/-- The refusal of something with a flaw. -/
def ofFlaw (flaw : EventFlaw) : Refusal :=
  .validation flaw.message

/-- The explanation of a refusal. -/
def message : Refusal → String
  | validation reason => s!"validation failed: {reason}"
  | forbidden => "forbidden"
  | notFound what => s!"{what} not found"
  | unavailable cause => s!"upstream unavailable: {cause}"
  | storage cause => s!"storage error: {cause}"

end Refusal

end TeamCalendar
