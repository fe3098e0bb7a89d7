import TeamCalendar.Forms
import TeamCalendar.Settings
import TeamCalendar.Toml.Table

/-!
# Forms of settings

Settings have a JSON form and are read from a table.  In both a setting may be missing and has its
default then, and what is not a setting is passed over.  What the parts of the service need to know of
the settings has a JSON form too, which is only written.
-/

namespace TeamCalendar

open Json (Codec)

/-- The JSON form of a text that may be missing. -/
def Json.textOrNull (text : Option String) : Json :=
  (Codec.nullable .text).write text

/-- The JSON form of what a running service needs to know. -/
def RuntimeSettings.toJson (settings : RuntimeSettings) : Json :=
  .object
    [("bind_addr", .text settings.bindAddr), ("api_token", .textOrNull settings.apiToken),
     ("rpc_timeout_ms", .number settings.rpcTimeoutMs),
     ("event_write_roles", (Codec.list Role.codec).write settings.eventWriteRoles),
     ("max_body_bytes", .number settings.maxBodyBytes),
     ("request_timeout_seconds", .number settings.requestTimeoutSeconds)]

/-- The JSON form of what is said of the storage. -/
def StorageSettings.toJson (settings : StorageSettings) : Json :=
  .object
    [("storage_backend", .text settings.backend.name),
     ("database_url", .text settings.databaseUrl),
     ("database_max_connections", .number settings.maxConnections)]

/-- The JSON form of what is said of the directories. -/
def DirectorySettings.toJson (settings : DirectorySettings) : Json :=
  .object
    [("team_service_url", .text settings.teamServiceUrl),
     ("user_service_url", .text settings.userServiceUrl),
     ("rpc_timeout_ms", .number settings.rpcTimeoutMs)]

/-- The JSON form of what is said of deliveries. -/
def DeliverySettings.toJson (settings : DeliverySettings) : Json :=
  .object
    [("webhook_url", .textOrNull settings.webhookUrl), ("topic", .text settings.topic),
     ("signing_secret", .textOrNull settings.signingSecret),
     ("timeout_ms", .number settings.timeoutMs)]

namespace Settings

/-- A setting that is a text. -/
def textField (key fallback : String) : Json.Field String :=
  .optional key .text fallback

/-- A setting that is a text or null. -/
def textField? (key : String) : Json.Field (Option String) :=
  .optional key (.nullable .text) none

/-- A setting that is a number. -/
def numberField (key : String) (bits fallback : Nat) : Json.Field Nat :=
  .optional key (.unsigned bits) fallback

/-- The JSON form of settings. -/
def codec : Codec Settings :=
  let defaults : Settings := {}
  .record
    (.cons (textField "bind_addr" defaults.bindAddr) <|
      .cons (textField? "api_token") <|
      .cons (textField "storage_backend" defaults.storageBackend) <|
      .cons (textField "database_url" defaults.databaseUrl) <|
      .cons (numberField "database_max_connections" 32 defaults.databaseMaxConnections) <|
      .cons (textField "team_service_url" defaults.teamServiceUrl) <|
      .cons (textField "user_service_url" defaults.userServiceUrl) <|
      .cons (numberField "rpc_timeout_ms" 64 defaults.rpcTimeoutMs) <|
      .cons (textField? "notifier_webhook_url") <|
      .cons (textField "notifier_topic" defaults.notifierTopic) <|
      .cons (textField? "notifier_signing_secret") <|
      .cons (.optional "event_write_roles" (.list .text) defaults.eventWriteRoles) <|
      .cons (numberField "max_body_bytes" 64 defaults.maxBodyBytes) <|
      .cons (numberField "request_timeout_seconds" 64 defaults.requestTimeoutSeconds) .nil)
    (fun (bindAddr, apiToken, storageBackend, databaseUrl, databaseMaxConnections, teamServiceUrl,
        userServiceUrl, rpcTimeoutMs, notifierWebhookUrl, notifierTopic, notifierSigningSecret,
        eventWriteRoles, maxBodyBytes, requestTimeoutSeconds, ()) =>
      { bindAddr, apiToken, storageBackend, databaseUrl, databaseMaxConnections, teamServiceUrl,
        userServiceUrl, rpcTimeoutMs, notifierWebhookUrl, notifierTopic, notifierSigningSecret,
        eventWriteRoles, maxBodyBytes, requestTimeoutSeconds })
    (fun s =>
      (s.bindAddr, s.apiToken, s.storageBackend, s.databaseUrl, s.databaseMaxConnections,
        s.teamServiceUrl, s.userServiceUrl, s.rpcTimeoutMs, s.notifierWebhookUrl, s.notifierTopic,
        s.notifierSigningSecret, s.eventWriteRoles, s.maxBodyBytes, s.requestTimeoutSeconds, ()))

/-- A value that is a text. -/
def textOf? : Toml.Value → Option String
  | .text s => some s
  | _ => none

/-- A value that is a number of the given size. -/
def numberOf? (bits : Nat) : Toml.Value → Option Nat
  | .integer n => if 0 ≤ n ∧ n < Nat.pow 2 bits then some n.toNat else none
  | _ => none

/-- A value that is a list of texts. -/
def textsOf? : Toml.Value → Option (List String)
  | .list items => items.mapM textOf?
  | _ => none

/-- Reads settings from a table. -/
def ofTable? (table : Toml.Table) : Option Settings := do
  let defaults : Settings := {}
  let entry {α : Type} (of? : Toml.Value → Option α) (key : String) (fallback : α) : Option α :=
    match table.lookup key with
    | some value => of? value
    | none => some fallback
  let text (key fallback : String) : Option String := entry textOf? key fallback
  let text? (key : String) : Option (Option String) :=
    entry (fun value => (textOf? value).map some) key none
  let number (bits : Nat) (key : String) (fallback : Nat) : Option Nat :=
    entry (numberOf? bits) key fallback
  pure
    { bindAddr := ← text "bind_addr" defaults.bindAddr
      apiToken := ← text? "api_token"
      storageBackend := ← text "storage_backend" defaults.storageBackend
      databaseUrl := ← text "database_url" defaults.databaseUrl
      databaseMaxConnections :=
        ← number 32 "database_max_connections" defaults.databaseMaxConnections
      teamServiceUrl := ← text "team_service_url" defaults.teamServiceUrl
      userServiceUrl := ← text "user_service_url" defaults.userServiceUrl
      rpcTimeoutMs := ← number 64 "rpc_timeout_ms" defaults.rpcTimeoutMs
      notifierWebhookUrl := ← text? "notifier_webhook_url"
      notifierTopic := ← text "notifier_topic" defaults.notifierTopic
      notifierSigningSecret := ← text? "notifier_signing_secret"
      eventWriteRoles := ← entry textsOf? "event_write_roles" defaults.eventWriteRoles
      maxBodyBytes := ← number 64 "max_body_bytes" defaults.maxBodyBytes
      requestTimeoutSeconds :=
        ← number 64 "request_timeout_seconds" defaults.requestTimeoutSeconds }

end Settings

end TeamCalendar
