import TeamCalendar.Directory.Client
import TeamCalendar.Proofs.Store.Overlay
import TeamCalendar.Service.Authorization

/-!
# The order in which an answer is visited

The body of an answer fills a map, in which the last entry of each key stays.  The entries of the map
are visited in any order, and the last one whose key names a user counts for that user.  Since many
keys name one user, the order can decide which role a user has, and so what the user may do.

* `Visits` are the orders in which the entries of a map can be visited.
* `Concordant` says of a map that it does not matter which entry of a user comes last.
-/

namespace TeamCalendar

section Filling

variable {κ ν : Type} [Ord κ] [Std.TransOrd κ] [Std.LawfulEqOrd κ] [DecidableEq κ]

/-- After rows have been put in place one by one, the last one under a key is found there. -/
theorem Table.getElem?_insertMany (table : Table κ ν) (rows : List (κ × ν)) (key : κ) :
    (table.insertMany rows)[key]? = (rows.reverse.lookup key).or table[key]? := by
  induction rows generalizing table with
  | nil => rfl
  | cons row rows ih =>
    obtain ⟨other, value⟩ := row
    rw [Std.ExtTreeMap.insertMany_cons, ih, List.reverse_cons, List.lookup_append, Option.or_assoc,
      Table.getElem?_insert]
    congr 1
    by_cases hkey : other = key
    · simp [hkey]
    · have hother : (key == other) = false := by simp [Ne.symm hkey]
      simp [hkey, List.lookup_cons, hother]

theorem Table.getElem?_ofList (rows : List (κ × ν)) (key : κ) :
    (Std.ExtTreeMap.ofList rows compare)[key]? = rows.reverse.lookup key := by
  cases rows with
  | nil => exact Std.ExtTreeMap.getElem?_empty
  | cons row rows =>
    obtain ⟨other, value⟩ := row
    rw [Std.ExtTreeMap.ofList_cons, ← Std.ExtTreeMap.insertMany_cons, Table.getElem?_insertMany,
      Std.ExtTreeMap.getElem?_empty, Option.or_none]

end Filling

namespace Directory

variable {α γ : Type} {entries order other : List (String × α)} {userId : UserId}

/-- The entries that stay in a map: of each key the last one. -/
def lasting : List (String × α) → List (String × α)
  | [] => []
  | entry :: entries =>
    if entries.any (·.1 = entry.1) then lasting entries else entry :: lasting entries

/-- The entries of a map can be visited in any order. -/
def Visits (entries order : List (String × α)) : Prop :=
  order.Perm (lasting entries)

theorem any_lasting (entries : List (String × α)) (key : String) :
    (lasting entries).any (·.1 = key) = entries.any (·.1 = key) := by
  induction entries with
  | nil => rfl
  | cons entry entries ih =>
    rw [lasting, List.any_cons]
    split
    · next hagain =>
      rw [ih]
      by_cases hkey : entry.1 = key
      · rw [← hkey, hagain, Bool.or_true]
      · simp [hkey]
    · rw [List.any_cons, ih]

theorem nodup_keys_lasting (entries : List (String × α)) :
    ((lasting entries).map Prod.fst).Nodup := by
  induction entries with
  | nil => exact List.nodup_nil
  | cons entry entries ih =>
    rw [lasting]
    split
    · exact ih
    · next hlast =>
      refine List.nodup_cons.2 ⟨fun hmem => hlast ?_, ih⟩
      obtain ⟨again, hagain, hkey⟩ := List.mem_map.1 hmem
      rw [← any_lasting]
      exact List.any_eq_true.2 ⟨again, hagain, decide_eq_true hkey⟩

theorem lookup_eq_none_iff_any {key : String} :
    entries.lookup key = none ↔ entries.any (·.1 = key) = false := by
  rw [List.lookup_eq_none_iff, List.any_eq_false]
  refine forall₂_congr fun entry _ => ?_
  rw [bne_iff_ne, decide_eq_true_eq, ne_comm]

theorem lookup_singleton (entry : String × α) (key : String) (value : α) :
    [entry].lookup key = some value ↔ (key, value) = entry := by
  obtain ⟨other, otherValue⟩ := entry
  by_cases hkey : key = other
  · simp [hkey, eq_comm]
  · have hother : (key == other) = false := by simp [hkey]
    simp [List.lookup_cons, hkey, hother]

theorem mem_lasting_cons {entry kept : String × α} :
    kept ∈ lasting (entry :: entries) ↔
      kept ∈ lasting entries ∨ entries.any (·.1 = kept.1) = false ∧ kept = entry := by
  rw [lasting]
  split
  · next hagain =>
    constructor
    · exact Or.inl
    · rintro (hkept | ⟨hnone, rfl⟩)
      · exact hkept
      · rw [hagain] at hnone
        cases hnone
  · next hlast =>
    rw [List.mem_cons]
    constructor
    · rintro (rfl | hkept)
      · exact .inr ⟨Bool.eq_false_iff.2 hlast, rfl⟩
      · exact .inl hkept
    · rintro (hkept | ⟨-, rfl⟩)
      · exact .inr hkept
      · exact .inl rfl

/-- An entry stays if it is the last one of its key. -/
theorem mem_lasting_iff {key : String} {value : α} :
    (key, value) ∈ lasting entries ↔ entries.reverse.lookup key = some value := by
  induction entries with
  | nil => simp [lasting]
  | cons entry entries ih =>
    rw [mem_lasting_cons, ih, List.reverse_cons, List.lookup_append, Option.or_eq_some_iff,
      lookup_eq_none_iff_any, List.any_reverse, lookup_singleton]

/-- The orders of a visit are those that list each key once, with the value that it was given last. -/
theorem visits_iff :
    Visits entries order ↔
      (order.map Prod.fst).Nodup ∧
        ∀ key value, (key, value) ∈ order ↔ entries.reverse.lookup key = some value := by
  constructor
  · intro hvisits
    refine ⟨(hvisits.map Prod.fst).nodup_iff.2 (nodup_keys_lasting entries), fun key value => ?_⟩
    rw [← mem_lasting_iff]
    exact hvisits.mem_iff
  · rintro ⟨hnodup, hmem⟩
    have hdistinct {listed : List (String × α)} (h : (listed.map Prod.fst).Nodup) : listed.Nodup :=
      List.Pairwise.of_map Prod.fst (fun _ _ hkeys => mt (congrArg Prod.fst) hkeys) h
    refine (List.perm_ext_iff_of_nodup (hdistinct hnodup)
      (hdistinct (nodup_keys_lasting entries))).2 ?_
    rintro ⟨key, value⟩
    rw [hmem, mem_lasting_iff]

/-- What the entry says that counts for a user. -/
def counting? (userId : UserId) (entries : List (String × α)) : Option α :=
  (identified entries).reverse.lookup userId

theorem counting?_append (userId : UserId) (entries others : List (String × α)) :
    counting? userId (entries ++ others) =
      (counting? userId others).or (counting? userId entries) := by
  rw [counting?, identified, List.filterMap_append, List.reverse_append, List.lookup_append]
  rfl

theorem counting?_singleton (userId : UserId) (entry : String × α) :
    counting? userId [entry] =
      if Id.parseTrimmed? entry.1 = some userId then some entry.2 else none := by
  cases hkey : (Id.parseTrimmed? entry.1 : Option UserId) with
  | none => simp [counting?, identified, hkey]
  | some named =>
    by_cases hsame : named = userId
    · simp [counting?, identified, hkey, hsame]
    · have hother : (userId == named) = false := by simp [Ne.symm hsame]
      simp [counting?, identified, hkey, hsame, List.lookup_cons, hother]

theorem counting?_cons (userId : UserId) (entry : String × α) (entries : List (String × α)) :
    counting? userId (entry :: entries) =
      (counting? userId entries).or
        (if Id.parseTrimmed? entry.1 = some userId then some entry.2 else none) := by
  rw [← List.singleton_append, counting?_append, counting?_singleton]

theorem counting?_eq_none_iff :
    counting? userId entries = none ↔ ∀ entry ∈ entries, Id.parseTrimmed? entry.1 ≠ some userId := by
  induction entries with
  | nil => simp [counting?, identified]
  | cons entry entries ih =>
    rw [counting?_cons, Option.or_eq_none_iff, ih, List.forall_mem_cons, and_comm]
    simp

/-- What counts for a user stands under a key that names the user. -/
theorem exists_mem_of_counting? {value : α} (h : counting? userId entries = some value) :
    ∃ key, (key, value) ∈ entries ∧ Id.parseTrimmed? key = some userId := by
  induction entries with
  | nil => cases h
  | cons entry entries ih =>
    rw [counting?_cons, Option.or_eq_some_iff] at h
    rcases h with hlater | ⟨-, hfirst⟩
    · obtain ⟨key, hmem, hkey⟩ := ih hlater
      exact ⟨key, List.mem_cons_of_mem _ hmem, hkey⟩
    · split at hfirst
      · next hkey =>
        cases hfirst
        exact ⟨entry.1, List.mem_cons_self, hkey⟩
      · cases hfirst

/-- Leaving out what does not stay makes no difference, so the order of the body is one of those in
which the entries can be visited. -/
theorem counting?_lasting (userId : UserId) (entries : List (String × α)) :
    counting? userId (lasting entries) = counting? userId entries := by
  induction entries with
  | nil => rfl
  | cons entry entries ih =>
    rw [lasting, counting?_cons]
    split
    · next hagain =>
      obtain ⟨later, hlater, hkey⟩ := List.any_eq_true.1 hagain
      rw [ih]
      cases hcounts : counting? userId entries with
      | some value => rfl
      | none =>
        have hother := counting?_eq_none_iff.1 hcounts later hlater
        rw [of_decide_eq_true hkey] at hother
        rw [if_neg hother, Option.or_none]
    · rw [counting?_cons, ih]

theorem lookup_map_snd {κ : Type} [BEq κ] (f : α → γ) (rows : List (κ × α)) (key : κ) :
    (rows.map fun (other, value) => (other, f value)).lookup key = (rows.lookup key).map f := by
  induction rows with
  | nil => rfl
  | cons row rows ih =>
    obtain ⟨other, value⟩ := row
    rw [List.map_cons, List.lookup_cons, List.lookup_cons, ih]
    cases key == other with
    | true => rfl
    | false => rfl

theorem getElem?_membershipOf (entries : List (String × String)) (userId : UserId) :
    (membershipOf entries)[userId]? = (counting? userId entries).map Role.ofText := by
  rw [membershipOf, Table.getElem?_ofList, ← List.map_reverse, lookup_map_snd, counting?]

theorem getElem?_profilesOf (entries : List (String × Profile)) (userId : UserId) :
    (profilesOf entries)[userId]? = counting? userId entries :=
  Table.getElem?_ofList _ _

theorem membershipOf_lasting (entries : List (String × String)) :
    membershipOf (lasting entries) = membershipOf entries :=
  Std.ExtTreeMap.ext_getElem? fun userId => by
    rw [getElem?_membershipOf, getElem?_membershipOf, counting?_lasting]

theorem profilesOf_lasting (entries : List (String × Profile)) :
    profilesOf (lasting entries) = profilesOf entries :=
  Std.ExtTreeMap.ext_getElem? fun userId => by
    rw [getElem?_profilesOf, getElem?_profilesOf, counting?_lasting]

/-- What a requester may do is up to the entry that counts for the requester. -/
theorem decide?_membershipOf (entries : List (String × String)) (requester : UserId)
    (required : List Role) :
    Service.decide? requester (membershipOf entries) required =
      (counting? requester entries).bind fun word =>
        (some (Role.ofText word)).filter (·.isAnyOf required) := by
  rw [Service.decide?, getElem?_membershipOf]
  cases counting? requester entries with
  | none => rfl
  | some word => rw [Option.map_some, Option.bind_some]

/-- Whether the key of an entry names a user. -/
def namesUser (entry : String × α) : Bool :=
  (Id.parseTrimmed? entry.1 : Option UserId).isSome

/-- Entries whose keys name no user are not taken into account. -/
theorem identified_filter_namesUser (entries : List (String × α)) :
    identified (entries.filter namesUser) = identified entries := by
  rw [identified, identified, List.filterMap_filter]
  congr 1
  funext ⟨key, value⟩
  rw [namesUser]
  cases hkey : (Id.parseTrimmed? key : Option UserId) with
  | none => simp [hkey]
  | some named => rfl

/-- Of an entry that counts for a user there is an order in which it is visited last. -/
theorem exists_visits_counting? {key : String} {value : α} (hmem : (key, value) ∈ lasting entries)
    (hkey : Id.parseTrimmed? key = some userId) :
    ∃ order, Visits entries order ∧ counting? userId order = some value := by
  obtain ⟨before, after, hsplit⟩ := List.append_of_mem hmem
  refine ⟨before ++ after ++ [(key, value)], ?_, ?_⟩
  · rw [Visits, hsplit]
    exact (List.perm_append_singleton _ _).trans List.perm_middle.symm
  · rw [counting?_append, counting?_singleton, if_pos hkey, Option.some_or]

/-- All entries of a user mean the same. -/
def Concordant (meaning : α → γ) (entries : List (String × α)) (userId : UserId) : Prop :=
  ∀ entry ∈ lasting entries, ∀ other ∈ lasting entries,
    Id.parseTrimmed? entry.1 = some userId → Id.parseTrimmed? other.1 = some userId →
    meaning entry.2 = meaning other.2

/-- The order of the visit does not matter for a user exactly if all entries of the user mean the
same. -/
theorem forall_visits_eq_iff (meaning : α → Option γ) :
    (∀ order other, Visits entries order → Visits entries other →
        (counting? userId order).bind meaning = (counting? userId other).bind meaning) ↔
      Concordant meaning entries userId := by
  constructor
  · -- each of two entries of the user is the last one in some order
    rintro h ⟨key, value⟩ hmem ⟨key', value'⟩ hmem' hkey hkey'
    obtain ⟨order, hvisits, hcounts⟩ := exists_visits_counting? hmem hkey
    obtain ⟨order', hvisits', hcounts'⟩ := exists_visits_counting? hmem' hkey'
    have hsame := h order order' hvisits hvisits'
    rwa [hcounts, hcounts'] at hsame
  · intro h order order' hvisits hvisits'
    cases hcounts : counting? userId order with
    | none =>
      -- none of the entries names the user, in whichever order they come
      have hnone : counting? userId order' = none :=
        counting?_eq_none_iff.2 fun entry hentry =>
          counting?_eq_none_iff.1 hcounts entry
            (hvisits.mem_iff.2 (hvisits'.mem_iff.1 hentry))
      rw [hnone]
    | some value =>
      cases hcounts' : counting? userId order' with
      | none =>
        obtain ⟨key, hmem, hkey⟩ := exists_mem_of_counting? hcounts
        have hmem' : (key, value) ∈ order' := hvisits'.mem_iff.2 (hvisits.mem_iff.1 hmem)
        exact absurd hkey (counting?_eq_none_iff.1 hcounts' (key, value) hmem')
      | some value' =>
        obtain ⟨key, hmem, hkey⟩ := exists_mem_of_counting? hcounts
        obtain ⟨key', hmem', hkey'⟩ := exists_mem_of_counting? hcounts'
        exact h (key, value) (hvisits.mem_iff.1 hmem) (key', value') (hvisits'.mem_iff.1 hmem') hkey
          hkey'

/-- For the role of a user, for what the user may do and for the profile of the user the order of the
visit does not matter exactly if all entries whose keys name the user mean the same.  Entries whose
keys name no user do not matter in any order. -/
theorem visits_irrelevant_iff (members : List (String × String)) (people : List (String × Profile))
    (userId : UserId) (required : List Role) :
    ((∀ order other, Visits members order → Visits members other →
        (membershipOf order)[userId]? = (membershipOf other)[userId]?) ↔
      Concordant Role.ofText members userId) ∧
    ((∀ order other, Visits members order → Visits members other →
        Service.decide? userId (membershipOf order) required =
          Service.decide? userId (membershipOf other) required) ↔
      Concordant (fun word => (some (Role.ofText word)).filter (·.isAnyOf required)) members
        userId) ∧
    ((∀ order other, Visits people order → Visits people other →
        (profilesOf order)[userId]? = (profilesOf other)[userId]?) ↔
      Concordant id people userId) ∧
    (∀ order : List (String × String),
      membershipOf (order.filter namesUser) = membershipOf order) ∧
    ∀ order : List (String × Profile), profilesOf (order.filter namesUser) = profilesOf order := by
  have hsome {α γ : Type} (meaning : α → γ) (entries : List (String × α)) :
      Concordant (some ∘ meaning) entries userId ↔ Concordant meaning entries userId := by
    simp only [Concordant, Function.comp_apply, Option.some_inj]
  refine ⟨?_, ?_, ?_, ?_, ?_⟩
  · simp only [getElem?_membershipOf, Option.map_eq_bind]
    exact (forall_visits_eq_iff _).trans (hsome Role.ofText members)
  · simp only [decide?_membershipOf]
    exact forall_visits_eq_iff _
  · have hbind (entries : List (String × Profile)) :
        (profilesOf entries)[userId]? = (counting? userId entries).bind some := by
      rw [getElem?_profilesOf, Option.bind_fun_some]
    simp only [hbind]
    exact (forall_visits_eq_iff _).trans (hsome id people)
  · intro order
    rw [membershipOf, identified_filter_namesUser, membershipOf]
  · intro order
    rw [profilesOf, identified_filter_namesUser, profilesOf]

/-- Two spellings of one user: the order decides whether the user may write. -/
theorem exists_visits_decide :
    ∃ (body : String) (members : List (String × String)) (userId : UserId),
      (membershipCodec.decode (Text.bytesOf body)).toOption = some members ∧
        Visits members members ∧ Visits members members.reverse ∧
        Service.decide? userId (membershipOf members) Role.writers = none ∧
        Service.decide? userId (membershipOf members.reverse) Role.writers = some .coach := by
  refine ⟨"\x7b\"members\":\x7b" ++
      "\"aaaaaaaa-aaaa-4aaa-8aaa-aaaaaaaaaaaa\":\x7b\"role\":\"coach\"\x7d," ++
      "\"AAAAAAAA-AAAA-4AAA-8AAA-AAAAAAAAAAAA\":\x7b\"role\":\"player\"\x7d\x7d\x7d",
    [("aaaaaaaa-aaaa-4aaa-8aaa-aaaaaaaaaaaa", "coach"),
      ("AAAAAAAA-AAAA-4AAA-8AAA-AAAAAAAAAAAA", "player")],
    ⟨0xaaaaaaaaaaaa4aaa8aaaaaaaaaaaaaaa⟩, ?_, ?_, ?_, ?_, ?_⟩
  · decide +kernel
  · rw [Visits]
    decide +kernel
  · rw [Visits]
    decide +kernel
  · rw [decide?_membershipOf]
    decide +kernel
  · rw [decide?_membershipOf]
    decide +kernel

end Directory

end TeamCalendar
