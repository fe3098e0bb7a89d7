import TeamCalendar.Proofs.Text.Words
import TeamCalendar.Role

/-!
# Texts for roles

A text stands for a role if it is the word for it, blanks around it and the case of its letters aside.
No letter of these words is the lower case of a character from outside of the Basic Latin block, so that
no other text stands for a role.

* `Role.ofText_eq_iff` says which texts stand for a role.
* `Role.ofText_exact` adds that all others permit nothing.
-/

namespace TeamCalendar.Role

variable {s : String} {role : Role}

theorem isNative_name (hknown : role ≠ unknown) :
    Text.IsNative Char.toLower Text.lowerStrays role.name := by
  cases role with
  | coach => decide
  | manager => decide
  | player => decide
  | unknown => exact absurd rfl hknown

theorem ofText_eq_iff_lower (hknown : role ≠ unknown) :
    ofText s = role ↔ Text.lower (Text.trim s) = role.name := by
  unfold ofText
  constructor
  · rintro rfl
    split at hknown
    · next hword => exact hword
    · next hword => exact hword
    · next hword => exact hword
    · exact absurd rfl hknown
  · intro hword
    rw [hword]
    cases role with
    | coach => rfl
    | manager => rfl
    | player => rfl
    | unknown => exact absurd rfl hknown

/-- The texts for a known role are those with the letters of its word. -/
theorem ofText_eq_iff (hknown : role ≠ unknown) :
    ofText s = role ↔ Text.SameLetters (Text.trim s) role.name := by
  rw [ofText_eq_iff_lower hknown, Text.lower_eq_iff (isNative_name hknown)]

theorem ofText_eq_unknown (hother : ∀ role ≠ unknown, ¬ Text.SameLetters (Text.trim s) role.name) :
    ofText s = unknown := by
  refine Decidable.byContradiction fun hknown => ?_
  exact hother (ofText s) hknown ((ofText_eq_iff hknown).1 rfl)

/-- A text with a character from outside of the Basic Latin block, blanks around it aside, stands for no
role. -/
theorem ofText_of_not_isBasicLatin {c : Char} (hc : c ∈ (Text.trim s).toList)
    (hlatin : Text.isBasicLatin c = false) : ofText s = unknown := by
  apply ofText_eq_unknown
  intro role hknown hletters
  have hmem : c.toLower ∈ role.name.toList.map Char.toLower := by
    rw [← hletters]
    exact List.mem_map_of_mem hc
  obtain ⟨d, hd, hsame⟩ := List.mem_map.1 hmem
  obtain ⟨hlower, hnative⟩ := isNative_name hknown d hd
  rw [hlower] at hsame
  rw [hsame] at hnative
  apply hnative
  left
  rw [Text.isBasicLatin_toLower, hlatin]

/-- Blank characters have no case. -/
theorem isBlank_of_touched {c : Char} (hlatin : Text.isBasicLatin c = false)
    (htouched : Text.lowerChar c ≠ [c] ∨ Text.upperChar c ≠ [c]) : Text.isBlank c = false := by
  rw [← Bool.not_eq_true]
  intro hblank
  rcases htouched with hlower | hupper
  · exact hlower (Text.lowerChar_of_isBlank hlatin hblank)
  · exact hupper (Text.upperChar_of_isBlank hlatin hblank)

/-- A text stands for a role exactly if it is the word for this role, blanks around it and the case of
Basic Latin letters aside.  Every other text stands for an unknown role, and so does in particular every
text with a character that has a case and lies outside of the Basic Latin block.  An unknown role is not
permitted anything, whatever is allowed. -/
theorem ofText_exact (s : String) :
    (ofText s = coach ↔ Text.SameLetters (Text.trim s) "coach") ∧
    (ofText s = manager ↔ Text.SameLetters (Text.trim s) "manager") ∧
    (ofText s = player ↔ Text.SameLetters (Text.trim s) "player") ∧
    ((∀ word ∈ ["coach", "manager", "player"], ¬ Text.SameLetters (Text.trim s) word) →
      ofText s = unknown) ∧
    (∀ c ∈ s.toList, Text.isBasicLatin c = false →
      Text.lowerChar c ≠ [c] ∨ Text.upperChar c ≠ [c] → ofText s = unknown) ∧
    (ofText s = unknown → ∀ allowed, (ofText s).isAnyOf allowed = false) := by
  refine ⟨ofText_eq_iff nofun, ofText_eq_iff nofun, ofText_eq_iff nofun, ?_, ?_, ?_⟩
  · intro hother
    apply ofText_eq_unknown
    intro role hknown
    cases role with
    | coach => exact hother "coach" (by simp)
    | manager => exact hother "manager" (by simp)
    | player => exact hother "player" (by simp)
    | unknown => exact absurd rfl hknown
  · intro c hc hlatin htouched
    have hkept : c ∈ (Text.trim s).toList := by
      rw [Text.trim, String.toList_ofList]
      exact Text.mem_trimChars hc (isBlank_of_touched hlatin htouched)
    exact ofText_of_not_isBasicLatin hkept hlatin
  · intro hunknown allowed
    rw [hunknown, isAnyOf_unknown]

example : ofText " \u00a0ManaGER\u3000" = manager := by
  decide +kernel

end TeamCalendar.Role
