import TeamCalendar.Settings.Loading

/-!
# Checking settings

The program reads a settings file from its input, loads settings from it and from the environment, and
prints them in their normal form.  If they have a flaw, it names the flaw and fails.
-/

namespace TeamCalendar.Main

/-- The names of the variables that matter. -/
def variableNames : List String :=
  ["BIND_ADDR", "API_TOKEN", "STORAGE_BACKEND", "DATABASE_URL", "DATABASE_MAX_CONNECTIONS",
   "TEAM_SERVICE_URL", "USER_SERVICE_URL", "RPC_TIMEOUT_MS", "NOTIFIER_WEBHOOK_URL",
   "NOTIFIER_TOPIC", "NOTIFIER_SIGNING_SECRET", "WRITE_ROLES", "MAX_BODY_BYTES",
   "REQUEST_TIMEOUT_SECONDS"].map ("EVENTS_" ++ ·)

/-- The variables that are set. -/
def environment : IO Environment :=
  variableNames.filterMapM fun name => do
    return (← IO.getEnv name).map fun value => (name, value)

/-- Reads to the end of the input. -/
partial def readAll (input : IO.FS.Stream) (read : ByteArray) : IO ByteArray := do
  let bytes ← input.read 65536
  if bytes.isEmpty then pure read else readAll input (read ++ bytes)

end TeamCalendar.Main

open TeamCalendar in
/-- Checks settings. -/
def main : IO UInt32 := do
  let file ← Main.readAll (← IO.getStdin) .empty
  match Settings.load (some file.toList) (← Main.environment) with
  | .ok settings =>
    IO.println (Settings.codec.encode settings)
    return 0
  | .error flaw =>
    IO.eprintln flaw.message
    return 1
