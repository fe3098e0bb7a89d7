import TeamCalendar.Json.Record
import TeamCalendar.Proofs.Json.Codec

/-!
# Records read back

A record is read back from the object in which it is written if its fields are: the keys have to be
different, and a field may be left out only for the value that it has when it is missing.

* `Fields.Restorable` says so of the fields, one after the other.
* `Fields.TakesAll` is how members are taken into a draft, whoever reads them.
-/

namespace TeamCalendar.Json

open Reader

namespace Fields

/-- The keys of the fields. -/
def keys : {αs : List Type} → Fields αs → List String
  | _, .nil => []
  | _, .cons field fields => field.key :: fields.keys

/-- The draft of a row that has been written, without what was left out. -/
def written : {αs : List Type} → Fields αs → Row αs → Draft αs
  | _, .nil, _ => ()
  | _, .cons field fields, (value, row) =>
    (if field.omits value then none else some value, fields.written row)

/-- Each field restores its values, only fallbacks are left out, and no key is used again. -/
inductive Restorable : {αs : List Type} → Fields αs → Prop where
  | nil : Restorable .nil
  | cons {α : Type} {αs : List Type} {field : Field α} {fields : Fields αs}
    (hfield : field.codec.Restores)
    (homits : ∀ value, field.omits value = true → field.fallback = some value)
    (hkey : field.key ∉ fields.keys) (hfields : fields.Restorable) :
    Restorable (.cons field fields)

variable {α : Type} {αs : List Type}

/-- What is left to be read after a key that names a later field. -/
def later (value : Option α) (reader : Reader (Draft αs)) : Reader (Draft (α :: αs)) := do
  let draft ← reader
  pure (value, draft)

/-- What is left to be read after the key of the first field. -/
def first (field : Field α) (draft : Draft αs) : Reader (Draft (α :: αs)) := do
  readColon
  let value ← field.codec.read
  pure (some value, draft)

theorem readMember?_of_ne {field : Field α} {key : String} (hkey : key ≠ field.key)
    (fields : Fields αs) (value : Option α) (draft : Draft αs) :
    (Fields.cons field fields).readMember? key (value, draft) =
      (fields.readMember? key draft).map (later value) :=
  if_neg hkey

theorem readMember?_first (field : Field α) (fields : Fields αs) (draft : Draft αs) :
    (Fields.cons field fields).readMember? field.key (none, draft) = some (first field draft) :=
  if_pos rfl

/-- The fields take in a member: there is one with its key, and what follows the key is read. -/
def TakesMember (fields : Fields αs) (draft : Draft αs) (entry : String × Json)
    (draft' : Draft αs) : Prop :=
  ∃ reader, fields.readMember? entry.1 draft = some reader ∧
    ∀ rest, reader (colon :: entry.2.bytes ++ rest) = .ok (draft', rest)

/-- The fields take in members, one after the other. -/
inductive TakesAll (fields : Fields αs) : Draft αs → List (String × Json) → Draft αs → Prop where
  | nil (draft : Draft αs) : TakesAll fields draft [] draft
  | cons {draft between draft' : Draft αs} {entry : String × Json}
    {entries : List (String × Json)} (hentry : fields.TakesMember draft entry between)
    (hentries : TakesAll fields between entries draft') :
    TakesAll fields draft (entry :: entries) draft'

theorem key_mem_keys {fields : Fields αs} {row : Row αs} {entry : String × Json}
    (h : entry ∈ fields.members row) : entry.1 ∈ fields.keys := by
  induction fields with
  | nil => cases h
  | cons field fields ih =>
    obtain ⟨value, row⟩ := row
    rw [members] at h
    split at h
    · exact List.mem_cons_of_mem _ (ih h)
    · rcases List.mem_cons.1 h with rfl | hlater
      · exact List.mem_cons_self
      · exact List.mem_cons_of_mem _ (ih hlater)

/-- Members for later fields leave the first field alone. -/
theorem TakesAll.cons_of_ne {field : Field α} {fields : Fields αs} {draft draft' : Draft αs}
    {entries : List (String × Json)} (h : fields.TakesAll draft entries draft')
    (hkeys : ∀ entry ∈ entries, entry.1 ≠ field.key) (value : Option α) :
    (Fields.cons field fields).TakesAll (value, draft) entries (value, draft') := by
  induction h with
  | nil draft => exact .nil _
  | @cons draft between draft' entry entries hentry hentries ih =>
    rw [List.forall_mem_cons] at hkeys
    obtain ⟨reader, hreader, hread⟩ := hentry
    refine .cons ⟨later value reader, ?_, ?_⟩ (ih hkeys.2)
    · rw [readMember?_of_ne hkeys.1, hreader]
      rfl
    · intro rest
      exact bind_ok (hread rest) _

/-- What is written of a row is taken in, and nothing else. -/
theorem Restorable.takesAll {fields : Fields αs} (h : fields.Restorable) (row : Row αs) :
    fields.TakesAll fields.blank (fields.members row) (fields.written row) := by
  induction h with
  | nil => exact .nil _
  | @cons α αs field fields hfield homits hkey hfields ih =>
    obtain ⟨value, row⟩ := row
    have hkeys : ∀ entry ∈ fields.members row, entry.1 ≠ field.key := by
      intro entry hentry heq
      exact hkey (heq ▸ key_mem_keys hentry)
    rw [members, written]
    split
    · exact (ih row).cons_of_ne hkeys none
    · refine .cons ⟨first field fields.blank, ?_, ?_⟩ ((ih row).cons_of_ne hkeys (some value))
      · exact readMember?_first field fields fields.blank
      · intro rest
        have hvalue := hfield.read_write value rest
        rw [List.cons_append]
        exact (bind_ok (readColon_cons _) _).trans (bind_ok hvalue _)

/-- A draft of what was written is complete. -/
theorem Restorable.complete?_written {fields : Fields αs} (h : fields.Restorable) (row : Row αs) :
    fields.complete? (fields.written row) = some row := by
  induction h with
  | nil => rfl
  | @cons α αs field fields hfield homits hkey hfields ih =>
    obtain ⟨value, row⟩ := row
    have hvalue : (if field.omits value then none else some value).or field.fallback =
        some value := by
      split
      · next homitted => rw [homits value homitted]; rfl
      · rfl
    rw [written, complete?, hvalue, ih row]
    rfl

/-- Members that the fields take in are read from an object. -/
theorem TakesAll.takes {fields : Fields αs} {draft draft' : Draft αs}
    {entries : List (String × Json)} (h : fields.TakesAll draft entries draft') :
    Takes fields.readMember draft entries draft' := by
  induction h with
  | nil draft => exact .nil _
  | @cons draft between draft' entry entries hentry hentries ih =>
    refine .cons ?_ ih
    intro rest
    obtain ⟨reader, hreader, hread⟩ := hentry
    rw [memberBytes, List.append_assoc, readMember, bind_ok (readKey_text _ _), hreader]
    exact hread rest

/-- A record is read from an object that has other members before its fields, if these leave no
trace. -/
theorem Restorable.read_object_of_takes {fields : Fields αs} (h : fields.Restorable)
    {others : List (String × Json)} (hothers : Takes fields.readMember fields.blank others fields.blank)
    (row : Row αs) (rest : List UInt8) :
    fields.read (bytes (.object (others ++ fields.members row)) ++ rest) = .ok (row, rest) := by
  have hobject := (hothers.append (h.takesAll row).takes).readObject_eq rest
  have hcomplete : fields.complete (fields.written row) rest = .ok (row, rest) := by
    rw [complete, h.complete?_written]
    rfl
  have hread : (readObject fields.readMember fields.blank >>= fields.complete)
      (separated ((others ++ fields.members row).map memberBytes) ++ closeBrace :: rest) =
      .ok (row, rest) := by
    rw [bind_ok hobject, hcomplete]
  rw [bytes_object, List.cons_append, List.append_assoc]
  exact hread

theorem Restorable.read_object {fields : Fields αs} (h : fields.Restorable) (row : Row αs)
    (rest : List UInt8) :
    fields.read (bytes (.object (fields.members row)) ++ rest) = .ok (row, rest) :=
  h.read_object_of_takes (.nil _) row rest

theorem Restorable.required {key : String} {codec : Codec α} {fields : Fields αs}
    (hcodec : codec.Restores) (hkey : key ∉ fields.keys) (hfields : fields.Restorable) :
    Restorable (.cons (.required key codec) fields) :=
  .cons hcodec nofun hkey hfields

theorem Restorable.optional {key : String} {codec : Codec α} {fallback : α} {fields : Fields αs}
    (hcodec : codec.Restores) (hkey : key ∉ fields.keys) (hfields : fields.Restorable) :
    Restorable (.cons (.optional key codec fallback) fields) :=
  .cons hcodec nofun hkey hfields

end Fields

theorem Codec.restores_record {αs : List Type} {β : Type} {fields : Fields αs}
    {build : Row αs → β} {split : β → Row αs} (h : fields.Restorable)
    (hbuild : ∀ value, build (split value) = value) :
    (Codec.record fields build split).Restores where
  read_write value rest := by
    have hread := map_ok (h.read_object (split value) rest) build
    rw [hbuild] at hread
    exact hread
  starts value := ⟨openBrace, _, bytes_object _, .object⟩

end TeamCalendar.Json
