import Mathlib.Data.List.DropRight
import TeamCalendar.Proofs.Text.Lower
import TeamCalendar.Settings

/-!
# Normal form twice

Settings that are in normal form stay as they are when they are brought into normal form again, with
one exception.  The slashes at the end of an address are dropped after the blanks, so that a blank right
before the slashes is left, and goes only the next time.

* `ascending_normalRoles` and `mem_normalRoles` tell which words for roles there are in normal form.
* `normalUrl_eq_self_iff` tells which addresses are in normal form.
* `normalized_twice` says what the second time changes.
-/

namespace TeamCalendar

namespace Settings

/-! ## Words without repetitions -/

theorem eraseReps_loop_eq (word : String) (words erased : List String) :
    List.eraseRepsBy.loop (· == ·) word words erased =
      erased.reverse ++ (word :: words).eraseReps := by
  induction words generalizing word erased with
  | nil => simp [List.eraseReps, List.eraseRepsBy, List.eraseRepsBy.loop]
  | cons next words ih =>
    rw [List.eraseReps, List.eraseRepsBy, List.eraseRepsBy.loop, List.eraseRepsBy.loop]
    cases word == next with
    | true => exact ih word erased
    | false =>
      simp only
      rw [ih next (word :: erased), ih next [word], List.reverse_cons, List.append_assoc]
      rfl

theorem eraseReps_cons_cons (word next : String) (words : List String) :
    (word :: next :: words).eraseReps =
      if word = next then (word :: words).eraseReps
      else word :: (next :: words).eraseReps := by
  rw [List.eraseReps, List.eraseRepsBy, List.eraseRepsBy.loop]
  by_cases heq : word = next
  · rw [if_pos heq, beq_iff_eq.2 heq]
    rfl
  · rw [if_neg heq, beq_eq_false_iff_ne.2 heq]
    exact eraseReps_loop_eq next words [word]

@[simp]
theorem mem_eraseReps {word : String} {words : List String} :
    word ∈ words.eraseReps ↔ word ∈ words := by
  cases words with
  | nil => rfl
  | cons first words =>
    induction words generalizing first with
    | nil => rfl
    | cons next words ih =>
      rw [eraseReps_cons_cons]
      split
      · next heq =>
        rw [ih, heq]
        simp
      · rw [List.mem_cons, ih next]
        exact List.mem_cons.symm

theorem pairwise_eraseReps {words : List String} (h : words.Pairwise (· ≤ ·)) :
    words.eraseReps.Pairwise (· < ·) := by
  cases words with
  | nil => exact .nil
  | cons first words =>
    induction words generalizing first with
    | nil => exact List.pairwise_singleton _ _
    | cons next words ih =>
      rw [eraseReps_cons_cons]
      obtain ⟨hfirst, hwords⟩ := List.pairwise_cons.1 h
      split
      · refine ih first (List.pairwise_cons.2 ⟨?_, hwords.of_cons⟩)
        exact fun word hword => hfirst word (List.mem_cons_of_mem next hword)
      · next hne =>
        refine List.pairwise_cons.2 ⟨?_, ih next hwords⟩
        have hless : first < next := by
          apply String.not_le.1
          intro hle
          exact hne (String.le_antisymm (hfirst next List.mem_cons_self) hle)
        intro word hword
        rcases List.mem_cons.1 (mem_eraseReps.1 hword) with rfl | hlater
        · exact hless
        · apply String.not_le.1
          intro hle
          have hnext := (List.pairwise_cons.1 hwords).1 word hlater
          exact String.not_le.2 hless (String.le_trans hnext hle)

theorem eraseReps_eq_self {words : List String} (h : words.Pairwise (· < ·)) :
    words.eraseReps = words := by
  cases words with
  | nil => rfl
  | cons first words =>
    induction words generalizing first with
    | nil => rfl
    | cons next words ih =>
      obtain ⟨hfirst, hwords⟩ := List.pairwise_cons.1 h
      have hne : first ≠ next := by
        rintro rfl
        exact String.lt_irrefl first (hfirst first List.mem_cons_self)
      rw [eraseReps_cons_cons, if_neg hne, ih next hwords]

/-! ## Words for roles -/

theorem not_decide_lt_iff {a b : String} : (!decide (b < a)) = true ↔ a ≤ b := by
  rw [Bool.not_eq_true', decide_eq_false_iff_not, String.not_lt]

theorem sorted_mergeSort (words : List String) :
    (words.mergeSort fun a b => !decide (b < a)).Pairwise (· ≤ ·) := by
  have htrans (a b c : String) (hab : (!decide (b < a)) = true) (hbc : (!decide (c < b)) = true) :
      (!decide (c < a)) = true := by
    rw [not_decide_lt_iff] at hab hbc ⊢
    exact String.le_trans hab hbc
  have htotal (a b : String) : (!decide (b < a) || !decide (a < b)) = true := by
    rw [Bool.or_eq_true, not_decide_lt_iff, not_decide_lt_iff]
    exact String.le_total a b
  exact (List.pairwise_mergeSort htrans htotal words).imp not_decide_lt_iff.1

/-- There is one way to sort words. -/
theorem mergeSort_eq {words sorted : List String} (hperm : words.Perm sorted)
    (hsorted : sorted.Pairwise (· ≤ ·)) :
    words.mergeSort (fun a b => !decide (b < a)) = sorted :=
  List.Perm.eq_of_pairwise (fun _ _ _ _ => String.le_antisymm) (sorted_mergeSort words) hsorted
    ((List.mergeSort_perm words _).trans hperm)

/-- In normal form the words are in ascending order, and none is repeated. -/
theorem ascending_normalRoles (words : List String) :
    (normalRoles words).Pairwise (· < ·) :=
  pairwise_eraseReps (sorted_mergeSort _)

theorem mem_normalRoles {word : String} {words : List String} :
    word ∈ normalRoles words ↔
      word ≠ "" ∧ ∃ written ∈ words, Text.lower (Text.trim written) = word := by
  rw [normalRoles, mem_eraseReps, List.mem_mergeSort, List.mem_filter, List.mem_map,
    decide_eq_true_eq, and_comm]

/-- The word is not empty, and it is trimmed and in lower case. -/
def NormalWord (word : String) : Prop :=
  word ≠ "" ∧ Text.lower (Text.trim word) = word

theorem normalWord_of_mem_normalRoles {word : String} {words : List String}
    (hword : word ∈ normalRoles words) : NormalWord word := by
  obtain ⟨hne, written, -, rfl⟩ := mem_normalRoles.1 hword
  exact ⟨hne, Text.lower_trim_lower_trim written⟩

theorem normalRoles_eq_self {words : List String} (hascending : words.Pairwise (· < ·))
    (hwords : ∀ word ∈ words, NormalWord word) : normalRoles words = words := by
  have hmap : (words.map fun word => Text.lower (Text.trim word)) = words := by
    conv_rhs => rw [← List.map_id words]
    exact List.map_congr_left fun word hword => (hwords word hword).2
  have hfilter : words.filter (· ≠ "") = words :=
    List.filter_eq_self.2 fun word hword => decide_eq_true (hwords word hword).1
  have hsort : words.mergeSort (fun a b => !decide (b < a)) = words := by
    refine mergeSort_eq (.refl words) (hascending.imp fun {a b} hless => ?_)
    exact String.not_lt.1 fun hgreater => String.lt_irrefl a (String.lt_trans hless hgreater)
  rw [normalRoles, hmap, hfilter, hsort, eraseReps_eq_self hascending]

theorem normalRoles_normalRoles (words : List String) :
    normalRoles (normalRoles words) = normalRoles words :=
  normalRoles_eq_self (ascending_normalRoles words) fun _ => normalWord_of_mem_normalRoles

/-! ## Addresses -/

/-- Whether a character is a slash. -/
abbrev isSlash (c : Char) : Bool :=
  c = '/'

theorem toList_normalUrl (url : String) :
    (normalUrl url).toList = (Text.trimChars url.toList).rdropWhile isSlash := by
  simp [normalUrl, Text.dropEndSlashes, Text.trim, List.rdropWhile]

theorem normalUrl_prefix (url : String) : (normalUrl url).toList <+: Text.trimChars url.toList := by
  rw [toList_normalUrl]
  exact List.rdropWhile_prefix isSlash _

/-- No blank is left at the start. -/
theorem isBlank_head?_normalUrl (url : String) :
    ∀ c ∈ (normalUrl url).toList.head?, Text.isBlank c = false := by
  intro c hc
  apply (Text.trimmed_trimChars url.toList).1 c
  obtain ⟨rest, hrest⟩ := normalUrl_prefix url
  rw [← hrest, List.head?_append, Option.mem_def.1 hc]
  rfl

/-- No slash is left at the end. -/
theorem slash_notMem_getLast?_normalUrl (url : String) :
    '/' ∉ (normalUrl url).toList.getLast? := by
  intro hslash
  have hne : (normalUrl url).toList ≠ [] := by
    intro hnil
    rw [hnil] at hslash
    cases hslash
  rw [Option.mem_def, List.getLast?_eq_some_getLast hne, Option.some_inj] at hslash
  simp only [toList_normalUrl] at hne hslash
  apply List.rdropWhile_last_not isSlash _ hne
  rw [hslash]
  rfl

theorem normalUrl_eq_self_iff {url : String} :
    normalUrl url = url ↔ Text.Trimmed url.toList ∧ '/' ∉ url.toList.getLast? := by
  constructor
  · intro heq
    have hstart := isBlank_head?_normalUrl url
    have hslash := slash_notMem_getLast?_normalUrl url
    have hprefix := normalUrl_prefix url
    rw [heq] at hstart hslash hprefix
    -- the text and what is left of it after trimming begin with each other
    have htrim : Text.trimChars url.toList = Text.trimEndChars url.toList := by
      rw [Text.trimChars, Text.trimStartChars_eq_self hstart]
    have hlength := (Text.trimEndChars_prefix url.toList).length_le
    rw [← htrim] at hlength
    have htrimmed := Text.trimmed_trimChars url.toList
    rw [← hprefix.eq_of_length_le hlength] at htrimmed
    exact ⟨htrimmed, hslash⟩
  · rintro ⟨htrimmed, hslash⟩
    rw [← String.toList_inj, toList_normalUrl, htrimmed.trimChars_eq, List.rdropWhile_eq_self_iff]
    intro hne hlast
    apply hslash
    rw [Option.mem_def, List.getLast?_eq_some_getLast hne, of_decide_eq_true hlast]

/-- A blank stands right before the slashes at the end of the text, blanks around it aside. -/
def BlankBeforeSlashes (url : String) : Prop :=
  ∃ start blank slashes, Text.trimChars url.toList = start ++ blank :: slashes ∧
    Text.isBlank blank = true ∧ ∀ c ∈ slashes, c = '/'

/-- A blank is left at the end exactly if it stood right before the slashes. -/
theorem trimmed_normalUrl_iff {url : String} :
    Text.Trimmed (normalUrl url).toList ↔ ¬ BlankBeforeSlashes url := by
  constructor
  · rintro ⟨-, hend⟩ ⟨start, blank, slashes, hsplit, hblank, hslashes⟩
    have hall : ∀ c ∈ slashes.reverse, isSlash c = true := fun c hc =>
      decide_eq_true (hslashes c (List.mem_reverse.1 hc))
    have hkept : isSlash blank = false := by
      refine decide_eq_false ?_
      rintro rfl
      cases hblank
    have hlast : (normalUrl url).toList = start ++ [blank] := by
      rw [toList_normalUrl, hsplit, List.rdropWhile, List.reverse_append, List.reverse_cons,
        List.append_assoc, List.dropWhile_append_of_pos hall]
      simp [hkept]
    rw [hlast] at hend
    have hfilled := hend blank (by simp)
    rw [hblank] at hfilled
    cases hfilled
  · intro hnone
    refine ⟨isBlank_head?_normalUrl url, fun c hc => ?_⟩
    rw [Bool.eq_false_iff]
    intro hblank
    apply hnone
    obtain ⟨start, hstart⟩ := List.getLast?_eq_some_iff.1 hc
    let chars := Text.trimChars url.toList
    have hsplit : chars.rdropWhile isSlash ++ chars.rtakeWhile isSlash = chars :=
      List.rdropWhile_append_rtakeWhile
    rw [← toList_normalUrl, hstart, List.append_assoc, List.singleton_append] at hsplit
    refine ⟨start, c, _, hsplit.symm, hblank, fun d hd => ?_⟩
    have hslash : isSlash d = true := List.mem_rtakeWhile_imp hd
    exact of_decide_eq_true hslash

/-- The normal form of an address is in normal form itself unless a blank is left at its end. -/
theorem normalUrl_normalUrl_eq_iff {url : String} :
    normalUrl (normalUrl url) = normalUrl url ↔ ¬ BlankBeforeSlashes url := by
  rw [normalUrl_eq_self_iff, trimmed_normalUrl_iff,
    and_iff_left (slash_notMem_getLast?_normalUrl url)]

/-! ## Settings -/

theorem unlessBlank_unlessBlank (text : Option String) :
    unlessBlank (unlessBlank text) = unlessBlank text := by
  simp [unlessBlank, Option.filter_filter]

/-- The normal form of a topic: one that is blank is replaced by the default. -/
def normalTopic (topic : String) : String :=
  if Text.isBlankText topic then "team-events" else topic

theorem isBlankText_normalTopic (topic : String) :
    Text.isBlankText (normalTopic topic) = false := by
  unfold normalTopic
  split
  · decide +kernel
  · next hfilled => exact Bool.eq_false_iff.2 hfilled

theorem normalTopic_eq_self {topic : String} (hfilled : Text.isBlankText topic = false) :
    normalTopic topic = topic := by
  rw [normalTopic, hfilled]
  rfl

theorem normalTopic_normalTopic (topic : String) :
    normalTopic (normalTopic topic) = normalTopic topic :=
  normalTopic_eq_self (isBlankText_normalTopic topic)

variable (settings : Settings)

theorem normalized_eq :
    settings.normalized =
      { settings with
        apiToken := unlessBlank settings.apiToken
        notifierWebhookUrl := unlessBlank settings.notifierWebhookUrl
        notifierSigningSecret := unlessBlank settings.notifierSigningSecret
        storageBackend := Text.lower (Text.trim settings.storageBackend)
        teamServiceUrl := normalUrl settings.teamServiceUrl
        userServiceUrl := normalUrl settings.userServiceUrl
        notifierTopic := normalTopic settings.notifierTopic
        eventWriteRoles := normalRoles settings.eventWriteRoles } :=
  rfl

/-- The second time only the addresses of the directories may change. -/
theorem normalized_normalized :
    settings.normalized.normalized =
      { settings.normalized with
        teamServiceUrl := normalUrl (normalUrl settings.teamServiceUrl)
        userServiceUrl := normalUrl (normalUrl settings.userServiceUrl) } := by
  simp only [normalized_eq, unlessBlank_unlessBlank, Text.lower_trim_lower_trim,
    normalRoles_normalRoles, normalTopic_normalTopic]

/-- Settings are in normal form after the first time exactly if no blank stood right before the slashes
at the end of an address.  Whatever stood there, everything but the addresses is in normal form; an
address does not begin with a blank or end with a slash, and ends with a blank exactly if one stood
there. -/
theorem normalized_twice :
    (settings.normalized.normalized = settings.normalized ↔
      ¬ BlankBeforeSlashes settings.teamServiceUrl ∧
        ¬ BlankBeforeSlashes settings.userServiceUrl) ∧
    settings.normalized.normalized =
      { settings.normalized with
        teamServiceUrl := settings.normalized.normalized.teamServiceUrl
        userServiceUrl := settings.normalized.normalized.userServiceUrl } ∧
    ∀ url ∈ [settings.teamServiceUrl, settings.userServiceUrl],
      (∀ c ∈ (normalUrl url).toList.head?, Text.isBlank c = false) ∧
      '/' ∉ (normalUrl url).toList.getLast? ∧
      ((∀ c ∈ (normalUrl url).toList.getLast?, Text.isBlank c = false) ↔
        ¬ BlankBeforeSlashes url) := by
  have htwice := normalized_normalized settings
  refine ⟨?_, ?_, fun url _ => ?_⟩
  · rw [htwice, ← normalUrl_normalUrl_eq_iff, ← normalUrl_normalUrl_eq_iff]
    constructor
    · intro heq
      injection heq with _ _ _ _ _ hteam huser
      exact ⟨hteam, huser⟩
    · rintro ⟨hteam, huser⟩
      rw [hteam, huser]
      rfl
  · rw [htwice]
  · have hstart := isBlank_head?_normalUrl url
    refine ⟨hstart, slash_notMem_getLast?_normalUrl url, ?_⟩
    rw [← trimmed_normalUrl_iff, Text.Trimmed, and_iff_right hstart]

/-- An address with a blank right before its last slash changes the second time. -/
theorem exists_normalized_twice_ne :
    ∃ settings : Settings, settings.normalized.normalized ≠ settings.normalized ∧
      settings.normalized.teamServiceUrl = "http://t/ " ∧
      settings.normalized.normalized.teamServiceUrl = "http://t" := by
  let settings : Settings := { teamServiceUrl := "http://t/ /" }
  have honce : settings.normalized.teamServiceUrl = "http://t/ " := by decide +kernel
  have htwice : settings.normalized.normalized.teamServiceUrl = "http://t" := by decide +kernel
  refine ⟨settings, ?_, honce, htwice⟩
  intro heq
  rw [heq, honce] at htwice
  exact absurd htwice (by decide)

end Settings

end TeamCalendar
