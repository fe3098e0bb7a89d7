import TeamCalendar.Proofs.Role
import TeamCalendar.Proofs.Settings.WellFormed

/-!
# Words for roles, laid down either way

The words for the roles that may create events are laid down as a list in a file, or in a variable with
commas between them.  In normal form it makes no difference which: what is left is the ascending list of the
words, each one once.  The normal form names the same roles as before.

* `mem_wordsOf_intercalate` says which words are read from a variable.
* `normalRoles_eq_iff` says that nothing but the set of words matters.
* `roles_either_way` puts the two ways together.
-/

namespace TeamCalendar.Settings

variable {texts others : List String} {word : String}

/-! ## The words that texts stand for -/

/-- Some text stands for the word, blanks around it and case aside. -/
def Names (texts : List String) (word : String) : Prop :=
  word ≠ "" ∧ ∃ text ∈ texts, Text.lower (Text.trim text) = word

theorem mem_normalRoles_iff : word ∈ normalRoles texts ↔ Names texts word :=
  mem_normalRoles

/-- Two ascending lists with the same words are the same. -/
theorem eq_of_ascending (htexts : texts.Pairwise (· < ·)) (hothers : others.Pairwise (· < ·))
    (hsame : ∀ word, word ∈ texts ↔ word ∈ others) : texts = others := by
  have hnodup {words : List String} (hwords : words.Pairwise (· < ·)) : words.Nodup := by
    apply hwords.imp
    rintro a b hless rfl
    exact String.lt_irrefl a hless
  have hperm : texts.Perm others :=
    (List.perm_ext_iff_of_nodup (hnodup htexts) (hnodup hothers)).2 hsame
  apply hperm.eq_of_pairwise _ htexts hothers
  intro a b _ _ hless hgreater
  exact absurd (String.lt_trans hless hgreater) (String.lt_irrefl a)

/-- The normal form depends on nothing but the set of words. -/
theorem normalRoles_eq_iff :
    normalRoles others = normalRoles texts ↔ ∀ word, Names others word ↔ Names texts word := by
  constructor
  · intro hsame word
    rw [← mem_normalRoles_iff, ← mem_normalRoles_iff, hsame]
  · intro hsame
    apply eq_of_ascending (ascending_normalRoles others) (ascending_normalRoles texts)
    intro word
    rw [mem_normalRoles_iff, mem_normalRoles_iff]
    exact hsame word

/-! ## Words in a variable -/

/-- Texts without commas are found between the commas again. -/
theorem splitAtCommas_intercalate (hne : texts ≠ []) (hcommas : ∀ text ∈ texts, ',' ∉ text.toList) :
    splitAtCommas (",".intercalate texts) = texts := by
  have hchars : ∀ chars ∈ texts.map String.toList, ',' ∉ chars := by
    intro chars hchars
    obtain ⟨text, htext, rfl⟩ := List.mem_map.1 hchars
    exact hcommas text htext
  have hsplit := List.splitOn_intercalate ',' hchars (by simpa using hne)
  have hcomma : ",".toList = [','] := rfl
  rw [splitAtCommas, String.toList_intercalate, hcomma, hsplit]
  simp [Function.comp_def]

/-- The items of a variable are the texts that are not blank, trimmed. -/
theorem wordsOf_intercalate (hcommas : ∀ text ∈ texts, ',' ∉ text.toList) :
    wordsOf (",".intercalate texts) = (texts.map Text.trim).filter (· ≠ "") := by
  by_cases hne : texts = []
  · subst hne
    decide
  · rw [wordsOf, splitAtCommas_intercalate hne hcommas]

theorem lower_trim_eq_empty {text : String} (hblank : Text.trim text = "") :
    Text.lower (Text.trim text) = "" := by
  rw [hblank]
  rfl

/-- The items of a variable stand for the same words as the texts. -/
theorem names_wordsOf_iff (hcommas : ∀ text ∈ texts, ',' ∉ text.toList) (word : String) :
    Names (wordsOf (",".intercalate texts)) word ↔ Names texts word := by
  rw [wordsOf_intercalate hcommas]
  apply and_congr_right
  intro hword
  constructor
  · rintro ⟨item, hitem, rfl⟩
    obtain ⟨hmem, -⟩ := List.mem_filter.1 hitem
    obtain ⟨text, htext, rfl⟩ := List.mem_map.1 hmem
    exact ⟨text, htext, by rw [Text.trim_trim]⟩
  · rintro ⟨text, htext, rfl⟩
    have hkept : Text.trim text ≠ "" := fun hblank => hword (lower_trim_eq_empty hblank)
    refine ⟨Text.trim text, List.mem_filter.2 ⟨List.mem_map_of_mem htext, ?_⟩, ?_⟩
    · exact decide_eq_true hkept
    · rw [Text.trim_trim]

/-! ## Settings -/

variable {settings : Settings} {environment : Environment}

theorem eventWriteRoles_of_variable {value : String}
    (hset : environment.lookup "EVENTS_WRITE_ROLES" = some value) :
    (settings.override environment).normalized.eventWriteRoles = normalRoles (wordsOf value) := by
  simp [override, normalized, hset]

theorem eventWriteRoles_of_unset (hunset : environment.lookup "EVENTS_WRITE_ROLES" = none) :
    (settings.override environment).normalized.eventWriteRoles =
      normalRoles settings.eventWriteRoles := by
  simp [override, normalized, hunset]

/-- The normal form names the same roles. -/
theorem mem_runtime_normalized_iff {role : Role} (hknown : role ≠ .unknown) :
    role ∈ settings.normalized.runtime.eventWriteRoles ↔
      role ∈ settings.runtime.eventWriteRoles := by
  have hnormal (text : String) : Role.ofText (Text.lower (Text.trim text)) = Role.ofText text := by
    rw [Role.ofText, Role.ofText, Text.lower_trim_lower_trim]
  have hruntime (settings : Settings) :
      role ∈ settings.runtime.eventWriteRoles ↔
        ∃ text ∈ settings.eventWriteRoles, Role.ofText text = role :=
    List.mem_map
  rw [hruntime, hruntime]
  constructor
  · rintro ⟨word, hword, rfl⟩
    obtain ⟨-, text, htext, rfl⟩ := mem_normalRoles_iff.1 hword
    exact ⟨text, htext, (hnormal text).symm⟩
  · rintro ⟨text, htext, rfl⟩
    refine ⟨_, mem_normalRoles_iff.2 ⟨?_, text, htext, rfl⟩, hnormal text⟩
    intro hempty
    rw [← hnormal, hempty] at hknown
    exact hknown rfl

/-- Whether texts without commas are laid down in a variable, with commas between them, or in a file, the
normal form has the same words: the ascending list of those that the texts stand for.  So it depends on
nothing but the set of these words.  The normal form of any settings grants the roles that they grant
themselves, unknown ones aside. -/
theorem roles_either_way {byVariable byFile : Environment} {file : Settings}
    (hcommas : ∀ text ∈ texts, ',' ∉ text.toList)
    (hset : byVariable.lookup "EVENTS_WRITE_ROLES" = some (",".intercalate texts))
    (hunset : byFile.lookup "EVENTS_WRITE_ROLES" = none)
    (hfile : file.eventWriteRoles = texts) :
    (∀ settings : Settings, (settings.override byVariable).normalized.eventWriteRoles =
      (file.override byFile).normalized.eventWriteRoles) ∧
    (file.override byFile).normalized.eventWriteRoles.Pairwise (· < ·) ∧
    (∀ word, word ∈ (file.override byFile).normalized.eventWriteRoles ↔
      word ≠ "" ∧ ∃ text ∈ texts, Text.lower (Text.trim text) = word) ∧
    (∀ other : Settings, (other.override byFile).normalized.eventWriteRoles =
        (file.override byFile).normalized.eventWriteRoles ↔
      ∀ word, Names other.eventWriteRoles word ↔ Names texts word) ∧
    ∀ (settings : Settings) (role : Role), role ≠ .unknown →
      (role ∈ settings.normalized.runtime.eventWriteRoles ↔
        role ∈ settings.runtime.eventWriteRoles) := by
  have hroles : (file.override byFile).normalized.eventWriteRoles = normalRoles texts := by
    rw [eventWriteRoles_of_unset hunset, hfile]
  rw [hroles]
  refine ⟨?_, ascending_normalRoles texts, fun _ => mem_normalRoles, ?_, ?_⟩
  · intro settings
    rw [eventWriteRoles_of_variable hset, normalRoles_eq_iff]
    exact names_wordsOf_iff hcommas
  · intro other
    rw [eventWriteRoles_of_unset hunset, normalRoles_eq_iff]
  · intro settings role hknown
    exact mem_runtime_normalized_iff hknown

/-- The words that the file lists are those of the variable, blanks, cases and repetitions aside. -/
theorem roles_either_way_sample :
    ∃ file : Settings,
      ofFile (some (Text.bytesOf "event_write_roles = [' Player', 'COACH', '', 'coach ']")) =
        .ok file ∧
      (∀ settings : Settings,
        (settings.override
          [("EVENTS_WRITE_ROLES", " Player,COACH,,coach ")]).normalized.eventWriteRoles =
        (file.override []).normalized.eventWriteRoles) ∧
      "player" ∈ (file.override []).normalized.eventWriteRoles := by
  have hcommas : ∀ text ∈ [" Player", "COACH", "", "coach "], ',' ∉ text.toList := by
    decide +kernel
  have hset : List.lookup "EVENTS_WRITE_ROLES" [("EVENTS_WRITE_ROLES", " Player,COACH,,coach ")] =
      some (",".intercalate [" Player", "COACH", "", "coach "]) := by
    decide +kernel
  let file : Settings := { eventWriteRoles := [" Player", "COACH", "", "coach "] }
  have hunset : List.lookup "EVENTS_WRITE_ROLES" ([] : Environment) = none := rfl
  have hfile : file.eventWriteRoles = [" Player", "COACH", "", "coach "] := rfl
  obtain ⟨hsame, -, hmem, -⟩ := roles_either_way hcommas hset hunset hfile
  refine ⟨file, by decide +kernel, hsame, (hmem "player").2 ⟨by decide, " Player", ?_, ?_⟩⟩
  · exact List.mem_cons_self
  · decide +kernel

end TeamCalendar.Settings
