import TeamCalendar.Http.Authentication
import TeamCalendar.Proofs.Settings.Defaults
import TeamCalendar.Proofs.Text.Trim
import TeamCalendar.Proofs.Text.Utf8

/-!
# Presenting the token

A header presents what stands after the word `Bearer`, trimmed, and only a value of printable
characters counts as a text.  The settings keep a token as it was laid down.  So the token is accepted
if it is trimmed and printable, and another one can be laid down but never presented; what differs
from it by more than the blanks around it is refused in any case.
-/

namespace TeamCalendar.Http

variable {headers : Headers} {name : String} {value : List UInt8}

/-- The header has one field with the given name, and this is its value. -/
def Headers.Sole (headers : Headers) (name : String) (value : List UInt8) : Prop :=
  (headers.filter (·.isNamed name)).map (·.value) = [value]

theorem Headers.Sole.first?_eq (h : headers.Sole name value) :
    headers.first? name = some value := by
  rw [first?, ← List.head?_filter, ← List.head?_map, h]
  rfl

/-- A value counts as a text if all its bytes are printable. -/
theorem Headers.Sole.text?_eq {s : String} (h : headers.Sole name (Text.bytesOf s)) :
    headers.text? name = if (Text.bytesOf s).all isTextByte then some s else none := by
  rw [text?, h.first?_eq, Option.bind_some, Text.ofBytes?_bytesOf]

/-- What stands after the word is presented without the blanks around it, unless it is blank. -/
theorem bearerToken?_append (s : String) :
    bearerToken? ("Bearer " ++ s) = if Text.isBlankText s then none else some (Text.trim s) := by
  have hstart : Text.trimStartChars (bearer ++ s.toList) = bearer ++ s.toList :=
    Text.trimStartChars_eq_self fun c hc => by cases hc; decide
  have htrim : Text.trimChars ("Bearer " ++ s).toList =
      if Text.trimChars s.toList = [] then Text.trimEndChars bearer
      else bearer ++ Text.trimEndChars s.toList := by
    have hchars : ("Bearer " ++ s).toList = bearer ++ s.toList := String.toList_append
    rw [hchars, Text.trimChars, hstart, Text.trimEndChars_append]
    simp only [Text.trimEndChars_eq_nil_iff]
  rw [bearerToken?, htrim, Text.isBlankText]
  split
  · next hblank =>
    rw [hblank]
    rfl
  · next hblank =>
    have hprefix : bearer.isPrefixOf (bearer ++ Text.trimEndChars s.toList) = true := by simp
    rw [if_pos hprefix, List.drop_left, Text.trimChars_trimEndChars]
    rfl

/-- Of the values that may be sent those count as texts whose bytes are below 128. -/
theorem all_isTextByte_iff (hlegal : value.all isValueByte = true) :
    value.all isTextByte = true ↔ ∀ b ∈ value, b < 128 := by
  have hbyte : ∀ b : UInt8, isValueByte b = true → (isTextByte b = true ↔ b < 128) := by
    intro b hb
    simp only [isValueByte, isTextByte, Bool.or_eq_true, Bool.and_eq_true, beq_iff_eq, bne_iff_ne,
      decide_eq_true_eq, ne_eq, ← UInt8.toNat_inj, UInt8.le_iff_toNat_le, UInt8.lt_iff_toNat_lt,
      UInt8.toNat_ofNat] at hb ⊢
    omega
  rw [List.all_eq_true]
  exact forall₂_congr fun b hb => hbyte b (List.all_eq_true.1 hlegal b hb)

/-- What is presented is accepted if it is the token, the blanks around it aside. -/
theorem isAuthorized_eq_true_iff {settings : RuntimeSettings} {token s : String}
    (htoken : settings.apiToken = some token) (hfilled : Text.isBlankText token = false)
    (h : headers.Sole "Authorization" (Text.bytesOf ("Bearer " ++ s))) :
    isAuthorized settings headers = true ↔
      (Text.bytesOf ("Bearer " ++ s)).all isTextByte = true ∧ Text.trim s = token := by
  unfold isAuthorized
  rw [htoken, h.text?_eq]
  simp only [decide_eq_true_eq]
  split
  · next htext =>
    rw [Option.bind_some, bearerToken?_append]
    split
    · next hblank =>
      have hnone : Text.trim s = "" := by
        rw [Text.trim, List.isEmpty_iff.1 hblank]
      constructor
      · intro hpresented
        cases hpresented
      · rintro ⟨-, rfl⟩
        rw [hnone] at hfilled
        cases hfilled
    · simp [htext]
  · next htext => simp [htext]

/-- A field stands alone in a header of its own. -/
theorem sole_singleton (name s : String) :
    Headers.Sole [.ofText name s] name (Text.bytesOf s) := by
  simp [Headers.Sole, Field.isNamed, Field.ofText]

/-- Whatever the settings were loaded from, their token is accepted exactly if no blanks stand around
it and all its characters lie in the Basic Latin block.  What differs from it by more than the blanks
around it is refused. -/
theorem token_presentable_iff {file : Option (List UInt8)} {environment : Environment}
    {settings : Settings} {token : String} (hload : Settings.load file environment = .ok settings)
    (htoken : settings.runtime.apiToken = some token)
    (hlegal : (Text.bytesOf ("Bearer " ++ token)).all isValueByte = true) :
    (∀ headers : Headers, headers.Sole "Authorization" (Text.bytesOf ("Bearer " ++ token)) →
      (isAuthorized settings.runtime headers = true ↔
        Text.trim token = token ∧ token.toList.all Text.isBasicLatin = true)) ∧
    ∀ (s : String) (headers : Headers),
      headers.Sole "Authorization" (Text.bytesOf ("Bearer " ++ s)) →
      Text.trim s ≠ Text.trim token → isAuthorized settings.runtime headers = false := by
  have hfilled := Settings.isBlankText_of_load hload htoken
  constructor
  · intro headers h
    have hlatin : (∀ b ∈ Text.bytesOf ("Bearer " ++ token), b < 128) ↔
        token.toList.all Text.isBasicLatin = true := by
      rw [Text.forall_mem_bytesOf_lt_iff, String.toList_append, List.all_append]
      simp [Text.isBasicLatin]
    rw [isAuthorized_eq_true_iff htoken hfilled h, all_isTextByte_iff hlegal, hlatin, and_comm]
  · intro s headers h hother
    refine Bool.eq_false_iff.2 fun hauthorized => hother ?_
    obtain ⟨-, hsame⟩ := (isAuthorized_eq_true_iff htoken hfilled h).1 hauthorized
    rw [← hsame, Text.trim_trim]

/-- A plain token can be presented, and another word is refused. -/
theorem token_presentable_iff_sample :
    Settings.load none [("EVENTS_API_TOKEN", "secret")] = .ok { apiToken := some "secret" } ∧
      isAuthorized (Settings.runtime { apiToken := some "secret" })
        [.ofText "Authorization" "Bearer secret"] = true ∧
      isAuthorized (Settings.runtime { apiToken := some "secret" })
        [.ofText "Authorization" "Bearer other"] = false := by
  have hload : Settings.load none [("EVENTS_API_TOKEN", "secret")] =
      .ok { apiToken := some "secret" } :=
    Settings.load_default rfl (by decide +kernel) (by decide)
  obtain ⟨hpresented, hrefused⟩ := token_presentable_iff hload rfl (by decide +kernel)
  exact ⟨hload, (hpresented _ (sole_singleton _ _)).2 (by decide +kernel),
    hrefused "other" _ (sole_singleton _ _) (by decide +kernel)⟩

/-- A token can be laid down and can be sent in a header, and yet it is not accepted. -/
def Unpresentable (token : String) : Prop :=
  Settings.load none [("EVENTS_API_TOKEN", token)] = .ok { apiToken := some token } ∧
    (Field.ofText "Authorization" ("Bearer " ++ token)).isLegal = true ∧
    isAuthorized (Settings.runtime { apiToken := some token })
      [.ofText "Authorization" ("Bearer " ++ token)] = false

/-- One token has a blank before it, and one has a letter outside of the Basic Latin block. -/
theorem exists_token_not_presentable :
    Unpresentable " secret" ∧ Unpresentable "s\u00e9cret" := by
  have hload {token : String} (hfilled : Text.isBlankText token = false) :
      Settings.load none [("EVENTS_API_TOKEN", token)] = .ok { apiToken := some token } :=
    Settings.load_default rfl (fun other hother => by cases hother; exact hfilled) (by decide)
  constructor
  · exact ⟨hload (by decide +kernel), by decide +kernel, by decide +kernel⟩
  · exact ⟨hload (by decide +kernel), by decide +kernel, by decide +kernel⟩

end TeamCalendar.Http
