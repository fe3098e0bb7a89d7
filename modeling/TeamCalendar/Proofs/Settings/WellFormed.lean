import TeamCalendar.Proofs.Settings.Defaults
import TeamCalendar.Proofs.Settings.Normal

/-!
# Settings that are loaded

The check accepts settings exactly if they are without flaw, and it looks at them in normal form.  So
whatever the file and the environment are, the parts of the service can rely on the settings that are
loaded: nothing has to be checked again.

* `check_eq_ok_iff` says which settings are accepted.
* `load_wellFormed` says what holds of settings that are loaded.
-/

namespace TeamCalendar

/-! ## Words for roles -/

namespace Role

/-- The words for the roles that are known. -/
def words : List String :=
  [coach.name, manager.name, player.name]

theorem name_mem_words {role : Role} (hknown : role ≠ unknown) : role.name ∈ words := by
  cases role with
  | coach => exact List.mem_cons_self
  | manager => exact List.mem_cons_of_mem _ List.mem_cons_self
  | player => exact List.mem_cons_of_mem _ (List.mem_cons_of_mem _ List.mem_cons_self)
  | unknown => exact absurd rfl hknown

/-- A word in normal form that stands for a role is the word for it. -/
theorem name_ofText {word : String} (hnormal : Text.lower (Text.trim word) = word)
    (hknown : ofText word ≠ unknown) : (ofText word).name = word := by
  unfold ofText at hknown ⊢
  rw [hnormal] at hknown ⊢
  split at hknown
  · rfl
  · rfl
  · rfl
  · exact absurd rfl hknown

end Role

namespace Settings

variable {settings : Settings}

/-! ## What the check accepts -/

section Steps

variable {α β : Type} {flaw : SettingsFlaw}

theorem require_eq_ok_iff {condition : Prop} [Decidable condition] :
    require condition flaw = .ok () ↔ condition := by
  unfold require
  split
  · next h => exact iff_of_true rfl h
  · next h => exact iff_of_false nofun h

theorem bind_eq_ok_iff {first : Except SettingsFlaw α} {next : α → Except SettingsFlaw β}
    {result : β} :
    first >>= next = .ok result ↔ ∃ value, first = .ok value ∧ next value = .ok result := by
  cases first with
  | error flaw => exact ⟨nofun, fun ⟨_, hnone, _⟩ => nomatch hnone⟩
  | ok value =>
    constructor
    · intro h
      exact ⟨value, rfl, h⟩
    · rintro ⟨_, ⟨⟩, h⟩
      exact h

theorem require_bind_eq_ok_iff {condition : Prop} [Decidable condition]
    {next : Unit → Except SettingsFlaw β} {result : β} :
    require condition flaw >>= next = .ok result ↔ condition ∧ next () = .ok result := by
  rw [bind_eq_ok_iff]
  constructor
  · rintro ⟨⟨⟩, hcondition, hnext⟩
    exact ⟨require_eq_ok_iff.1 hcondition, hnext⟩
  · rintro ⟨hcondition, hnext⟩
    exact ⟨(), require_eq_ok_iff.2 hcondition, hnext⟩

end Steps

/-- Settings without a flaw. -/
structure Flawless (settings : Settings) : Prop where
  address : Address.isSocketAddress settings.bindAddr = true
  backend : settings.storageBackend = "postgres" ∨ settings.storageBackend = "memory"
  database : settings.storageBackend = "postgres" →
    Text.isBlankText settings.databaseUrl = false
  connections : 1 ≤ settings.databaseMaxConnections
  directories : settings.teamServiceUrl ≠ "" ∧ settings.userServiceUrl ≠ ""
  rpcTimeout : 1 ≤ settings.rpcTimeoutMs ∧ settings.rpcTimeoutMs ≤ 30000
  someRole : settings.eventWriteRoles ≠ []
  knownRoles : ∀ word ∈ settings.eventWriteRoles, Role.ofText word ≠ .unknown
  body : 1 ≤ settings.maxBodyBytes
  requestTime : 1 ≤ settings.requestTimeoutSeconds

theorem backend_eq_ok_iff {backend : Backend} :
    settings.backend = .ok backend ↔
      (settings.storageBackend = "postgres" ∧ backend = .postgres) ∨
        (settings.storageBackend = "memory" ∧ backend = .memory) := by
  unfold Settings.backend
  split
  · next hname => simp [hname, eq_comm]
  · next hname => simp [hname, eq_comm]
  · next hpostgres hmemory =>
    refine iff_of_false nofun ?_
    rintro (⟨hname, -⟩ | ⟨hname, -⟩)
    · exact hpostgres hname
    · exact hmemory hname

theorem find?_unknown_eq_none_iff {words : List String} :
    (words.find? fun word => Role.ofText word = .unknown) = none ↔
      ∀ word ∈ words, Role.ofText word ≠ .unknown := by
  simp only [List.find?_eq_none, decide_eq_true_eq, ne_eq]

/-- The check accepts settings exactly if they are without flaw. -/
theorem check_eq_ok_iff : settings.check = .ok () ↔ settings.Flawless := by
  unfold check
  rw [require_bind_eq_ok_iff, bind_eq_ok_iff]
  simp only [require_bind_eq_ok_iff, backend_eq_ok_iff]
  constructor
  · rintro ⟨haddress, backend, hbackend, hdatabase, hconnections, hdirectories, hrpc, hsome, hrest⟩
    split at hrest
    · cases hrest
    · next hroles =>
      rw [require_bind_eq_ok_iff, require_eq_ok_iff] at hrest
      obtain ⟨hbody, htime⟩ := hrest
      refine ⟨haddress, ?_, ?_, Nat.one_le_iff_ne_zero.2 hconnections, hdirectories, hrpc, hsome,
        find?_unknown_eq_none_iff.1 hroles, Nat.one_le_iff_ne_zero.2 hbody,
        Nat.one_le_iff_ne_zero.2 htime⟩
      · exact hbackend.imp And.left And.left
      · rcases hbackend with ⟨-, rfl⟩ | ⟨hmemory, -⟩
        · exact fun _ => Bool.eq_false_iff.2 (hdatabase rfl)
        · intro hpostgres
          rw [hmemory] at hpostgres
          exact absurd hpostgres (by decide)
  · intro h
    have hrest : require (settings.maxBodyBytes ≠ 0) .noBody >>= (fun _ =>
        require (settings.requestTimeoutSeconds ≠ 0) .noRequestTime) = .ok () :=
      require_bind_eq_ok_iff.2 ⟨Nat.one_le_iff_ne_zero.1 h.body,
        require_eq_ok_iff.2 (Nat.one_le_iff_ne_zero.1 h.requestTime)⟩
    rw [find?_unknown_eq_none_iff.2 h.knownRoles]
    have hconnections := Nat.one_le_iff_ne_zero.1 h.connections
    rcases h.backend with hname | hname
    · refine ⟨h.address, .postgres, .inl ⟨hname, rfl⟩, fun _ => ?_, hconnections, h.directories,
        h.rpcTimeout, h.someRole, hrest⟩
      exact Bool.eq_false_iff.1 (h.database hname)
    · exact ⟨h.address, .memory, .inr ⟨hname, rfl⟩, nofun, hconnections, h.directories,
        h.rpcTimeout, h.someRole, hrest⟩

/-! ## What is loaded -/

/-- What the parts of the service rely on. -/
structure WellFormed (settings : Settings) : Prop where
  address : Address.isSocketAddress settings.bindAddr = true
  /-- The name of the backend is one of two, and each names a backend. -/
  backend : (settings.storageBackend = "postgres" ∧ settings.backend = .ok .postgres) ∨
    (settings.storageBackend = "memory" ∧ settings.backend = .ok .memory)
  storage : ∃ storage, settings.storage = .ok storage
  database : settings.storageBackend = "postgres" →
    Text.isBlankText settings.databaseUrl = false
  connections : 1 ≤ settings.databaseMaxConnections
  body : 1 ≤ settings.maxBodyBytes
  requestTime : 1 ≤ settings.requestTimeoutSeconds
  rpcTimeout : 1 ≤ settings.rpcTimeoutMs ∧ settings.rpcTimeoutMs ≤ 30000
  /-- A path can follow the address of a directory. -/
  directories : ∀ url ∈ [settings.teamServiceUrl, settings.userServiceUrl],
    url ≠ "" ∧ '/' ∉ url.toList.getLast?
  someRole : settings.eventWriteRoles ≠ []
  ascending : settings.eventWriteRoles.Pairwise (· < ·)
  words : ∀ word ∈ settings.eventWriteRoles, word ∈ ["coach", "manager", "player"]
  /-- The roles are those that the words name, in the same order. -/
  roles : settings.runtime.eventWriteRoles.map Role.name = settings.eventWriteRoles
  knownRoles : .unknown ∉ settings.runtime.eventWriteRoles
  nodup : settings.runtime.eventWriteRoles.Nodup
  /-- What may be missing is not blank if it is there. -/
  optional : ∀ text ∈
      [settings.apiToken, settings.notifierWebhookUrl, settings.notifierSigningSecret],
    ∀ s ∈ text, Text.isBlankText s = false
  topic : Text.isBlankText settings.notifierTopic = false

theorem isBlankText_of_mem_unlessBlank {text : Option String} {s : String}
    (hs : s ∈ unlessBlank text) : Text.isBlankText s = false := by
  obtain ⟨-, hfilled⟩ := Option.filter_eq_some_iff.1 hs
  simpa using hfilled

/-- The roles that words in normal form name have these words as their names. -/
theorem map_name_runtime {words : List String} (hnormal : ∀ word ∈ words, NormalWord word)
    (hknown : ∀ word ∈ words, Role.ofText word ≠ .unknown) :
    (words.map Role.ofText).map Role.name = words := by
  rw [List.map_map]
  conv_rhs => rw [← List.map_id words]
  exact List.map_congr_left fun word hword =>
    Role.name_ofText (hnormal word hword).2 (hknown word hword)

/-- Settings in normal form that are without flaw are well-formed. -/
theorem Flawless.wellFormed_normalized {read : Settings} (h : read.normalized.Flawless) :
    read.normalized.WellFormed := by
  have hbackend : (read.normalized.storageBackend = "postgres" ∧
        read.normalized.backend = .ok .postgres) ∨
      (read.normalized.storageBackend = "memory" ∧ read.normalized.backend = .ok .memory) :=
    h.backend.imp (fun hname => ⟨hname, backend_eq_ok_iff.2 (.inl ⟨hname, rfl⟩)⟩)
      (fun hname => ⟨hname, backend_eq_ok_iff.2 (.inr ⟨hname, rfl⟩)⟩)
  have hascending : read.normalized.eventWriteRoles.Pairwise (· < ·) :=
    ascending_normalRoles read.eventWriteRoles
  have hroles : read.normalized.runtime.eventWriteRoles.map Role.name =
      read.normalized.eventWriteRoles :=
    map_name_runtime (fun _ => normalWord_of_mem_normalRoles) h.knownRoles
  have hknown : .unknown ∉ read.normalized.runtime.eventWriteRoles := by
    intro hmem
    obtain ⟨word, hword, hunknown⟩ := List.mem_map.1 hmem
    exact h.knownRoles word hword hunknown
  refine {
    address := h.address
    backend := hbackend
    storage := ?_
    database := h.database
    connections := h.connections
    body := h.body
    requestTime := h.requestTime
    rpcTimeout := h.rpcTimeout
    directories := ?_
    someRole := h.someRole
    ascending := hascending
    words := ?_
    roles := hroles
    knownRoles := hknown
    nodup := ?_
    optional := ?_
    topic := isBlankText_normalTopic read.notifierTopic }
  · rcases hbackend with ⟨-, hok⟩ | ⟨-, hok⟩
    · exact ⟨_, bind_eq_ok_iff.2 ⟨_, hok, rfl⟩⟩
    · exact ⟨_, bind_eq_ok_iff.2 ⟨_, hok, rfl⟩⟩
  · simp only [List.forall_mem_cons]
    exact ⟨⟨h.directories.1, slash_notMem_getLast?_normalUrl _⟩,
      ⟨h.directories.2, slash_notMem_getLast?_normalUrl _⟩, nofun⟩
  · intro word hword
    rw [← hroles] at hword
    obtain ⟨role, hrole, rfl⟩ := List.mem_map.1 hword
    refine Role.name_mem_words ?_
    rintro rfl
    exact hknown hrole
  · rw [← hroles] at hascending
    refine (List.pairwise_map.1 hascending).imp fun {a b} hless heq => ?_
    rw [heq] at hless
    exact String.lt_irrefl _ hless
  · simp only [List.forall_mem_cons]
    exact ⟨fun _ => isBlankText_of_mem_unlessBlank, fun _ => isBlankText_of_mem_unlessBlank,
      fun _ => isBlankText_of_mem_unlessBlank, nofun⟩

/-- Whatever the file and the environment are, settings that are loaded are well-formed. -/
theorem load_wellFormed {file : Option (List UInt8)} {environment : Environment}
    (hload : load file environment = .ok settings) : settings.WellFormed := by
  obtain ⟨read, -, rfl, hcheck⟩ := load_eq_ok_iff.1 hload
  exact (check_eq_ok_iff.1 hcheck).wellFormed_normalized

/-- The file names a backend and roles in its own way, and the environment an address. -/
theorem load_wellFormed_sample :
    ∃ file : List UInt8, ∃ settings : Settings,
      load (some file) [("EVENTS_TEAM_SERVICE_URL", " http://teams// ")] = .ok settings ∧
        settings.teamServiceUrl = "http://teams" ∧
        settings.eventWriteRoles = ["coach", "player"] ∧ settings.WellFormed := by
  let file := Text.bytesOf
    "storage_backend = ' Memory '\nevent_write_roles = ['Player', 'COACH', 'coach ']"
  let read : Settings :=
    { storageBackend := " Memory ", eventWriteRoles := ["Player", "COACH", "coach "] }
  let settings : Settings :=
    { storageBackend := "memory", teamServiceUrl := "http://teams",
      eventWriteRoles := ["coach", "player"] }
  have hread : ofFile (some file) = .ok read := by decide +kernel
  have hbackend : Text.lower (Text.trim " Memory ") = "memory" := by decide +kernel
  have hteams : normalUrl " http://teams// " = "http://teams" := by decide +kernel
  have husers : normalUrl "http://127.0.0.1:8082" = "http://127.0.0.1:8082" := by decide +kernel
  have htopic : normalTopic "team-events" = "team-events" := by decide +kernel
  have hroles : normalRoles ["Player", "COACH", "coach "] = ["coach", "player"] := by
    have hwords : (["Player", "COACH", "coach "].map fun word =>
        Text.lower (Text.trim word)).filter (· ≠ "") = ["player", "coach", "coach"] := by
      decide +kernel
    have hsorted : ["player", "coach", "coach"].mergeSort (fun a b => !decide (b < a)) =
        ["coach", "coach", "player"] :=
      mergeSort_eq (by decide) (by decide)
    rw [normalRoles, hwords, hsorted]
    rfl
  have hnormal : settings =
      (read.override [("EVENTS_TEAM_SERVICE_URL", " http://teams// ")]).normalized := by
    have hoverride : read.override [("EVENTS_TEAM_SERVICE_URL", " http://teams// ")] =
        { read with teamServiceUrl := " http://teams// " } := rfl
    rw [hoverride, normalized_eq, hbackend, hteams, husers, htopic, hroles]
    rfl
  have hload : load (some file) [("EVENTS_TEAM_SERVICE_URL", " http://teams// ")] =
      .ok settings := by
    refine load_eq_ok_iff.2 ⟨read, hread, hnormal, check_eq_ok_iff.2 ?_⟩
    exact ⟨by decide +kernel, by decide, by decide, by decide, by decide, by decide, by decide,
      by decide +kernel, by decide, by decide⟩
  exact ⟨file, settings, hload, rfl, rfl, load_wellFormed hload⟩

end Settings

end TeamCalendar
