import TeamCalendar.Settings
import TeamCalendar.Text.Decimal

/-!
# The environment

Each setting has a variable, which overrides it.  A variable for a number that is no number of the
right size is passed over.
-/

namespace TeamCalendar

/-- Variables with their values. -/
abbrev Environment :=
  List (String × String)

namespace Settings

/-- The parts of a text between commas. -/
def splitAtCommas (s : String) : List String :=
  (s.toList.splitOn ',').map String.ofList

/-- The items of a list that is written in a variable. -/
def wordsOf (value : String) : List String :=
  ((splitAtCommas value).map Text.trim).filter (· ≠ "")

/-- The settings that an environment makes of the given ones. -/
def override (environment : Environment) (settings : Settings) : Settings :=
  let text (name current : String) : String := (environment.lookup name).getD current
  let text? (name : String) (current : Option String) : Option String :=
    (environment.lookup name).or current
  let number (bits : Nat) (name : String) (current : Nat) : Nat :=
    ((environment.lookup name).bind (Text.unsigned? bits)).getD current
  { bindAddr := text "EVENTS_BIND_ADDR" settings.bindAddr
    apiToken := text? "EVENTS_API_TOKEN" settings.apiToken
    storageBackend := text "EVENTS_STORAGE_BACKEND" settings.storageBackend
    databaseUrl := text "EVENTS_DATABASE_URL" settings.databaseUrl
    databaseMaxConnections :=
      number 32 "EVENTS_DATABASE_MAX_CONNECTIONS" settings.databaseMaxConnections
    teamServiceUrl := text "EVENTS_TEAM_SERVICE_URL" settings.teamServiceUrl
    userServiceUrl := text "EVENTS_USER_SERVICE_URL" settings.userServiceUrl
    rpcTimeoutMs := number 64 "EVENTS_RPC_TIMEOUT_MS" settings.rpcTimeoutMs
    notifierWebhookUrl := text? "EVENTS_NOTIFIER_WEBHOOK_URL" settings.notifierWebhookUrl
    notifierTopic := text "EVENTS_NOTIFIER_TOPIC" settings.notifierTopic
    notifierSigningSecret :=
      text? "EVENTS_NOTIFIER_SIGNING_SECRET" settings.notifierSigningSecret
    eventWriteRoles :=
      ((environment.lookup "EVENTS_WRITE_ROLES").map wordsOf).getD settings.eventWriteRoles
    maxBodyBytes := number 64 "EVENTS_MAX_BODY_BYTES" settings.maxBodyBytes
    requestTimeoutSeconds :=
      number 64 "EVENTS_REQUEST_TIMEOUT_SECONDS" settings.requestTimeoutSeconds }

end Settings

end TeamCalendar
