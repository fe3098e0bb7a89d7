import TeamCalendar.Settings.Environment
import TeamCalendar.Settings.Form
import TeamCalendar.Text.Utf8
import TeamCalendar.Toml.Document

/-!
# Loading settings

Settings come from a file, if there is one, and from the environment, which overrides it.  They are
brought into their normal form and have to be without flaw.
-/

namespace TeamCalendar.Settings

/-- Reads settings from the text of a file. -/
def ofToml (text : String) : Except SettingsFlaw Settings :=
  match (Toml.parse? text).bind ofTable? with
  | some settings => .ok settings
  | none => .error .illFormed

/-- The settings that a file lays down; a missing one leaves all defaults. -/
def ofFile : Option (List UInt8) → Except SettingsFlaw Settings
  | none => .ok {}
  | some bytes =>
    match Text.ofBytes? bytes with
    | some text => ofToml text
    | none => .error .unreadable

/-- Loads settings from a file and the environment. -/
def load (file : Option (List UInt8)) (environment : Environment) :
    Except SettingsFlaw Settings := do
  let settings ← ofFile file
  let settings := (settings.override environment).normalized
  settings.check
  pure settings

end TeamCalendar.Settings
