import TeamCalendar.Settings
import TeamCalendar.Sql.Database
import TeamCalendar.Sql.Location

/-!
# Starting the service

Before the service answers requests, its storage is made ready.  A storage in memory always is; a
database needs a location that makes sense and has to have its tables.
-/

namespace TeamCalendar

/-- Why the service does not start. -/
inductive StartupFlaw where
  /-- The settings have a flaw. -/
  | settings (flaw : SettingsFlaw)
  /-- The location of the database makes no sense. -/
  | badLocation
  /-- The tables cannot be made. -/
  | schema (cause : String)
  deriving DecidableEq

namespace StartupFlaw

/-- The explanation of a flaw. -/
def message : StartupFlaw → String
  | settings flaw => flaw.message
  | badLocation => "invalid database_url"
  | schema cause => cause

end StartupFlaw

namespace Startup

/-- Finds the database that settings name; none if events are kept in memory. -/
def location (settings : Settings) : Except StartupFlaw (Option String) := do
  let storage ← settings.storage.mapError .settings
  match storage.backend with
  | .memory => pure none
  | .postgres =>
    if Sql.Location.isLocation storage.databaseUrl then pure (some storage.databaseUrl)
    else throw .badLocation

/-- Makes the storage ready. -/
def prepare (settings : Settings) : Dialogue Sql (Except StartupFlaw Unit) :=
  match location settings with
  | .error flaw => pure (.error flaw)
  | .ok none => pure (.ok ())
  | .ok (some _) => do
    pure ((← Sql.Database.applySchema).mapError .schema)

end Startup

end TeamCalendar
