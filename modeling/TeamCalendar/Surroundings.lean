import TeamCalendar.Change
import TeamCalendar.Directory
import TeamCalendar.Storage
import TeamCalendar.Tally

/-!
# Surroundings

Everything that the service needs from outside: the directories, the storage, the time, the counters
and someone to tell of changes.  An answer of a directory or of the storage comes after a delay, and
the service may find it too late.
-/

namespace TeamCalendar

/-- A value that is there after some milliseconds. -/
structure Timed (α : Type) where
  /-- The milliseconds until it is there. -/
  delay : Nat
  /-- The value. -/
  value : α

namespace Surroundings

/-- A question of the service. -/
inductive Question where
  /-- A question to a directory. -/
  | directory (q : Directory.Question)
  /-- A question to the storage. -/
  | storage (q : Storage.Question)
  /-- The time. -/
  | now
  /-- Counts an occurrence. -/
  | count (occurrence : Occurrence)
  /-- The counters. -/
  | tally
  /-- Makes a change known. -/
  | publish (change : Change)

/-- The answer to a question. -/
def Answer : Question → Type
  | .directory q => Timed (Directory.Answer q)
  | .storage q => Timed (Storage.Answer q)
  | .now => Instant
  | .count _ | .publish _ => Unit
  | .tally => Tally

end Surroundings

/-- Questions of the service. -/
def Surroundings : Interface where
  Question := Surroundings.Question
  Answer := Surroundings.Answer

end TeamCalendar
