import Mathlib.Data.List.Nodup
import TeamCalendar.Proofs.Settings.Defaults

/-!
# Overriding settings one by one

Each setting has a variable of its own.  If it is set, and to a number where a number is due, the setting is
what the variable says, and otherwise what the file says.  No setting looks at another one, neither when it
is overridden nor when it is brought into normal form.

* `Setting.get_override` and `Setting.get_normalized` say so for the two steps.
* `load_one_by_one` says so for what is loaded from two files.
-/

namespace TeamCalendar.Settings

/-! ## The settings -/

/-- What there is to lay down. -/
inductive Kind where
  /-- A text. -/
  | text
  /-- A text, or nothing. -/
  | optionalText
  /-- A number that fits in so many bits. -/
  | number (bits : Nat)
  /-- A list of words. -/
  | words

namespace Kind

/-- The values of a kind. -/
def Value : Kind → Type
  | text => String
  | optionalText => Option String
  | number _ => Nat
  | words => List String

/-- Reads the value of a variable. -/
def read? : (kind : Kind) → String → Option kind.Value
  | text, value => some value
  | optionalText, value => some (some value)
  | number bits, value => Text.unsigned? bits value
  | words, value => some (wordsOf value)

end Kind

/-- One of the settings. -/
inductive Setting where
  | bindAddr
  | apiToken
  | storageBackend
  | databaseUrl
  | databaseMaxConnections
  | teamServiceUrl
  | userServiceUrl
  | rpcTimeoutMs
  | notifierWebhookUrl
  | notifierTopic
  | notifierSigningSecret
  | eventWriteRoles
  | maxBodyBytes
  | requestTimeoutSeconds

namespace Setting

/-- The kind of a setting. -/
def kind : Setting → Kind
  | bindAddr | storageBackend | databaseUrl | teamServiceUrl | userServiceUrl | notifierTopic => .text
  | apiToken | notifierWebhookUrl | notifierSigningSecret => .optionalText
  | databaseMaxConnections => .number 32
  | rpcTimeoutMs | maxBodyBytes | requestTimeoutSeconds => .number 64
  | eventWriteRoles => .words

/-- The name of the variable for a setting. -/
def variableName : Setting → String
  | bindAddr => "EVENTS_BIND_ADDR"
  | apiToken => "EVENTS_API_TOKEN"
  | storageBackend => "EVENTS_STORAGE_BACKEND"
  | databaseUrl => "EVENTS_DATABASE_URL"
  | databaseMaxConnections => "EVENTS_DATABASE_MAX_CONNECTIONS"
  | teamServiceUrl => "EVENTS_TEAM_SERVICE_URL"
  | userServiceUrl => "EVENTS_USER_SERVICE_URL"
  | rpcTimeoutMs => "EVENTS_RPC_TIMEOUT_MS"
  | notifierWebhookUrl => "EVENTS_NOTIFIER_WEBHOOK_URL"
  | notifierTopic => "EVENTS_NOTIFIER_TOPIC"
  | notifierSigningSecret => "EVENTS_NOTIFIER_SIGNING_SECRET"
  | eventWriteRoles => "EVENTS_WRITE_ROLES"
  | maxBodyBytes => "EVENTS_MAX_BODY_BYTES"
  | requestTimeoutSeconds => "EVENTS_REQUEST_TIMEOUT_SECONDS"

/-- The value of a setting. -/
def get : (setting : Setting) → Settings → setting.kind.Value
  | bindAddr, settings => settings.bindAddr
  | apiToken, settings => settings.apiToken
  | storageBackend, settings => settings.storageBackend
  | databaseUrl, settings => settings.databaseUrl
  | databaseMaxConnections, settings => settings.databaseMaxConnections
  | teamServiceUrl, settings => settings.teamServiceUrl
  | userServiceUrl, settings => settings.userServiceUrl
  | rpcTimeoutMs, settings => settings.rpcTimeoutMs
  | notifierWebhookUrl, settings => settings.notifierWebhookUrl
  | notifierTopic, settings => settings.notifierTopic
  | notifierSigningSecret, settings => settings.notifierSigningSecret
  | eventWriteRoles, settings => settings.eventWriteRoles
  | maxBodyBytes, settings => settings.maxBodyBytes
  | requestTimeoutSeconds, settings => settings.requestTimeoutSeconds

/-- The normal form of a value. -/
def normal : (setting : Setting) → setting.kind.Value → setting.kind.Value
  | apiToken, token => unlessBlank token
  | storageBackend, name => Text.lower (Text.trim name)
  | teamServiceUrl, url => normalUrl url
  | userServiceUrl, url => normalUrl url
  | notifierWebhookUrl, url => unlessBlank url
  | notifierTopic, topic => normalTopic topic
  | notifierSigningSecret, secret => unlessBlank secret
  | eventWriteRoles, words => normalRoles words
  | bindAddr, value | databaseUrl, value => value
  | databaseMaxConnections, value | rpcTimeoutMs, value | maxBodyBytes, value
  | requestTimeoutSeconds, value => value

/-- All settings. -/
def all : List Setting :=
  [bindAddr, apiToken, storageBackend, databaseUrl, databaseMaxConnections, teamServiceUrl,
   userServiceUrl, rpcTimeoutMs, notifierWebhookUrl, notifierTopic, notifierSigningSecret,
   eventWriteRoles, maxBodyBytes, requestTimeoutSeconds]

theorem mem_all (setting : Setting) : setting ∈ all := by
  cases setting <;> simp [all]

/-- Each setting has a variable of its own. -/
theorem variableName_injective {setting other : Setting}
    (h : setting.variableName = other.variableName) : setting = other := by
  have hnodup : (all.map variableName).Nodup := by decide +kernel
  exact List.inj_on_of_nodup_map hnodup setting.mem_all other.mem_all h

/-- Settings that have all values in common are the same. -/
theorem eq_of_get_eq {settings others : Settings}
    (h : ∀ setting : Setting, setting.get settings = setting.get others) : settings = others := by
  cases settings
  cases others
  simp only [Settings.mk.injEq]
  exact ⟨h bindAddr, h apiToken, h storageBackend, h databaseUrl, h databaseMaxConnections,
    h teamServiceUrl, h userServiceUrl, h rpcTimeoutMs, h notifierWebhookUrl, h notifierTopic,
    h notifierSigningSecret, h eventWriteRoles, h maxBodyBytes, h requestTimeoutSeconds⟩

/-! ## The environment -/

/-- The value that an environment gives a setting. -/
def given (setting : Setting) (environment : Environment) : Option setting.kind.Value :=
  (environment.lookup setting.variableName).bind setting.kind.read?

/-- The variable for the setting is set, and to a number that fits where a number is due. -/
def IsSet (setting : Setting) (environment : Environment) : Prop :=
  ∃ value, environment.lookup setting.variableName = some value ∧
    ∀ bits, setting.kind = .number bits → (Text.unsigned? bits value).isSome = true

variable {setting : Setting} {environment : Environment}

theorem isSome_read?_iff (kind : Kind) (value : String) :
    (kind.read? value).isSome = true ↔
      ∀ bits, kind = .number bits → (Text.unsigned? bits value).isSome = true := by
  cases kind with
  | text => exact iff_of_true rfl nofun
  | optionalText => exact iff_of_true rfl nofun
  | number bits =>
    constructor
    · rintro hsome _ ⟨⟩
      exact hsome
    · intro hsome
      exact hsome bits rfl
  | words => exact iff_of_true rfl nofun

theorem isSome_given_iff : (setting.given environment).isSome = true ↔ setting.IsSet environment := by
  simp only [given, IsSet, Option.isSome_bind, ← isSome_read?_iff]
  cases environment.lookup setting.variableName <;> simp

theorem given_eq_none (hunset : ¬ setting.IsSet environment) : setting.given environment = none := by
  rw [← isSome_given_iff] at hunset
  exact Option.not_isSome_iff_eq_none.1 hunset

/-- The environment overrides each setting by itself. -/
theorem get_override (setting : Setting) (environment : Environment) (settings : Settings) :
    setting.get (settings.override environment) =
      (setting.given environment).getD (setting.get settings) := by
  have htext (name current : String) : (environment.lookup name).getD current =
      ((environment.lookup name).bind (Kind.read? .text)).getD current := by
    cases environment.lookup name <;> rfl
  have htext? (name : String) (current : Option String) : (environment.lookup name).or current =
      ((environment.lookup name).bind (Kind.read? .optionalText)).getD current := by
    cases environment.lookup name <;> rfl
  have hwords (name : String) (current : List String) :
      ((environment.lookup name).map wordsOf).getD current =
        ((environment.lookup name).bind (Kind.read? .words)).getD current := by
    cases environment.lookup name <;> rfl
  cases setting with
  | bindAddr => exact htext _ _
  | apiToken => exact htext? _ _
  | storageBackend => exact htext _ _
  | databaseUrl => exact htext _ _
  | databaseMaxConnections => rfl
  | teamServiceUrl => exact htext _ _
  | userServiceUrl => exact htext _ _
  | rpcTimeoutMs => rfl
  | notifierWebhookUrl => exact htext? _ _
  | notifierTopic => exact htext _ _
  | notifierSigningSecret => exact htext? _ _
  | eventWriteRoles => exact hwords _ _
  | maxBodyBytes => rfl
  | requestTimeoutSeconds => rfl

/-- Each setting is brought into normal form by itself. -/
theorem get_normalized (setting : Setting) (settings : Settings) :
    setting.get settings.normalized = setting.normal (setting.get settings) := by
  cases setting <;> rfl

/-- A variable that is taken away is not found, and the others are as before. -/
theorem lookup_filter_ne (environment : Environment) (name other : String) :
    (environment.filter (·.1 ≠ name)).lookup other =
      if other = name then none else environment.lookup other := by
  induction environment with
  | nil => simp
  | cons entry environment ih =>
    obtain ⟨first, value⟩ := entry
    by_cases hfirst : first = name
    · subst hfirst
      rw [List.filter_cons_of_neg (by simp), ih, List.lookup_cons]
      by_cases hother : other = first
      · simp [hother]
      · simp [hother, beq_eq_false_iff_ne.2 hother]
    · rw [List.filter_cons_of_pos (by simpa using hfirst), List.lookup_cons, List.lookup_cons, ih]
      by_cases hother : other = first
      · subst hother
        simp [hfirst]
      · simp [beq_eq_false_iff_ne.2 hother]

/-- A setting whose variable does not set it is given the same without this variable. -/
theorem given_filter_ne (hnone : setting.given environment = none) (other : Setting) :
    other.given (environment.filter (·.1 ≠ setting.variableName)) = other.given environment := by
  rw [given, lookup_filter_ne]
  by_cases hname : other.variableName = setting.variableName
  · obtain rfl := variableName_injective hname
    rw [if_pos rfl, hnone]
    rfl
  · rw [if_neg hname]
    rfl

theorem override_congr {other : Environment}
    (h : ∀ setting : Setting, setting.given environment = setting.given other)
    (settings : Settings) : settings.override environment = settings.override other := by
  apply eq_of_get_eq
  intro setting
  rw [get_override, get_override, h]

/-- An environment that sets everything leaves nothing of the settings that it overrides. -/
theorem override_of_forall_isSet (h : ∀ setting : Setting, setting.IsSet environment)
    (settings others : Settings) :
    settings.override environment = others.override environment := by
  apply eq_of_get_eq
  intro setting
  obtain ⟨value, hvalue⟩ := Option.isSome_iff_exists.1 (isSome_given_iff.2 (h setting))
  rw [get_override, get_override, hvalue]
  rfl

end Setting

/-! ## What is loaded -/

variable {environment : Environment} {file file' : Option (List UInt8)}
  {read read' loaded : Settings}

theorem get_load (hread : ofFile file = .ok read) (hload : load file environment = .ok loaded)
    (setting : Setting) :
    setting.get loaded =
      setting.normal ((setting.given environment).getD (setting.get read)) := by
  obtain ⟨_, hsame, rfl, -⟩ := load_eq_ok_iff.1 hload
  rw [hread] at hsame
  cases hsame
  rw [Setting.get_normalized, Setting.get_override]

theorem load_congr {other : Environment}
    (h : ∀ settings : Settings, settings.override environment = settings.override other)
    (file : Option (List UInt8)) : load file environment = load file other := by
  unfold load
  simp only [h]

theorem load_eq_of_override_eq (hread : ofFile file = .ok read) (hread' : ofFile file' = .ok read')
    (h : read.override environment = read'.override environment) :
    load file environment = load file' environment := by
  unfold load
  rw [hread, hread']
  change (do
    (read.override environment).normalized.check
    pure (read.override environment).normalized) = _
  rw [h]
  rfl

/-- What is loaded from two files with one environment has the same value for each setting whose variable is
set, which is the normal form of what the variable says, and for every other one the normal form of the
file's own value.  If all variables are set then it does not matter which of the files it is, whether there
is a flaw or not.  A variable for a number that is not set to a number that fits may as well be missing. -/
theorem load_one_by_one (environment : Environment) (hread : ofFile file = .ok read)
    (hread' : ofFile file' = .ok read') :
    (∀ loaded loaded' : Settings, load file environment = .ok loaded →
      load file' environment = .ok loaded' → ∀ setting : Setting,
        (setting.IsSet environment → setting.get loaded = setting.get loaded' ∧
          ∃ value, setting.given environment = some value ∧
            setting.get loaded = setting.normal value) ∧
        (¬ setting.IsSet environment →
          setting.get loaded = setting.normal (setting.get read) ∧
          setting.get loaded' = setting.normal (setting.get read'))) ∧
    ((∀ setting : Setting, setting.IsSet environment) →
      load file environment = load file' environment) ∧
    ∀ (setting : Setting) (bits : Nat) (value : String), setting.kind = .number bits →
      environment.lookup setting.variableName = some value → Text.unsigned? bits value = none →
      ∀ other : Option (List UInt8), load other environment =
        load other (environment.filter (·.1 ≠ setting.variableName)) := by
  refine ⟨?_, ?_, ?_⟩
  · intro loaded loaded' hload hload' setting
    have hget := get_load hread hload setting
    have hget' := get_load hread' hload' setting
    constructor
    · intro hset
      obtain ⟨value, hvalue⟩ := Option.isSome_iff_exists.1 (Setting.isSome_given_iff.2 hset)
      rw [hvalue] at hget hget'
      exact ⟨hget.trans hget'.symm, value, hvalue, hget⟩
    · intro hunset
      rw [Setting.given_eq_none hunset] at hget hget'
      exact ⟨hget, hget'⟩
  · intro hset
    apply load_eq_of_override_eq hread hread'
    exact Setting.override_of_forall_isSet hset read read'
  · intro setting bits value hkind hlookup hbad file
    have hunset : ¬ setting.IsSet environment := by
      rintro ⟨other, hother, hnumber⟩
      rw [hlookup] at hother
      cases hother
      have hgood := hnumber bits hkind
      rw [hbad] at hgood
      cases hgood
    apply load_congr
    apply Setting.override_congr
    intro other
    exact (Setting.given_filter_ne (Setting.given_eq_none hunset) other).symm

/-- The topic is taken from the environment, where the length is no number and is left to the files. -/
theorem load_one_by_one_sample :
    ∃ (file : List UInt8) (loaded loaded' : Settings),
      load none [("EVENTS_NOTIFIER_TOPIC", "games"), ("EVENTS_MAX_BODY_BYTES", "many")] =
        .ok loaded ∧
      load (some file) [("EVENTS_NOTIFIER_TOPIC", "games"), ("EVENTS_MAX_BODY_BYTES", "many")] =
        .ok loaded' ∧
      loaded.notifierTopic = loaded'.notifierTopic ∧
      loaded.maxBodyBytes = 1048576 ∧ loaded'.maxBodyBytes = 2048 ∧
      load (some file) [("EVENTS_NOTIFIER_TOPIC", "games")] = .ok loaded' := by
  let environment : Environment :=
    [("EVENTS_NOTIFIER_TOPIC", "games"), ("EVENTS_MAX_BODY_BYTES", "many")]
  let file := Text.bytesOf "api_token = 'secret'\nmax_body_bytes = 2048"
  let read' : Settings := { apiToken := some "secret", maxBodyBytes := 2048 }
  let loaded : Settings := { notifierTopic := "games" }
  let loaded' : Settings :=
    { apiToken := some "secret", notifierTopic := "games", maxBodyBytes := 2048 }
  have hread : ofFile none = .ok {} := rfl
  have hread' : ofFile (some file) = .ok read' := by decide +kernel
  have htopic : Text.isBlankText "games" = false := by decide +kernel
  have hload : load none environment = .ok loaded := by
    refine load_beside_default rfl ?_ htopic (by decide)
    simp only [List.forall_mem_cons]
    exact ⟨nofun, nofun, nofun, nofun⟩
  have hload' : load (some file) environment = .ok loaded' := by
    refine load_eq_ok_iff.2 ⟨read', hread', ?_, check_default _ _ _ _ (by decide)⟩
    have hoverride : read'.override environment = loaded' := rfl
    rw [hoverride, normalized_default, htopic]
    rfl
  obtain ⟨hboth, -, hnumber⟩ := load_one_by_one environment hread hread'
  obtain ⟨hsame, -⟩ := (hboth loaded loaded' hload hload' .notifierTopic).1
    ⟨"games", rfl, nofun⟩
  have hunset : ¬ Setting.IsSet .maxBodyBytes environment := by
    rintro ⟨_, ⟨⟩, hgood⟩
    exact absurd (hgood 64 rfl) (by decide +kernel)
  obtain ⟨hbody, hbody'⟩ := (hboth loaded loaded' hload hload' .maxBodyBytes).2 hunset
  refine ⟨file, loaded, loaded', hload, hload', hsame, hbody, hbody', ?_⟩
  rw [← hload']
  exact (hnumber .maxBodyBytes 64 "many" rfl rfl (by decide +kernel) (some file)).symm

end TeamCalendar.Settings
