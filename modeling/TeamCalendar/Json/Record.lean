import TeamCalendar.Json.Codec

/-!
# Records

A record has named fields in a fixed order, each of a type of its own.  It is written as an object of
its fields.  It is read from an object with its fields in any order among others, which are skipped,
or from a list of its fields in their order.  A field with a fallback may be missing; in a list only
the last ones may.
-/

namespace TeamCalendar.Json

open Reader

/-- One value of each of the given types. -/
def Row : List Type → Type
  | [] => Unit
  | α :: αs => α × Row αs

/-- Values of some of the given types. -/
def Draft : List Type → Type
  | [] => Unit
  | α :: αs => Option α × Draft αs

/-- A field of a record. -/
structure Field (α : Type) where
  /-- The name of the field. -/
  key : String
  /-- How its value is read and written. -/
  codec : Codec α
  /-- The value of the field when it is missing; without one it has to be there. -/
  fallback : Option α := none
  /-- Whether a value is left out in writing. -/
  omits : α → Bool := fun _ => false

namespace Field

variable {α : Type}

/-- A field that has to be there. -/
def required (key : String) (codec : Codec α) : Field α :=
  { key, codec }

/-- A field that may be missing. -/
def optional (key : String) (codec : Codec α) (fallback : α) : Field α :=
  { key, codec, fallback := some fallback }

end Field

/-- The fields of a record, with their types. -/
inductive Fields : List Type → Type 1 where
  /-- No fields. -/
  | nil : Fields []
  /-- A field before others. -/
  | cons {α : Type} {αs : List Type} (field : Field α) (fields : Fields αs) : Fields (α :: αs)

namespace Fields

/-- The draft without any values. -/
def blank : {αs : List Type} → Fields αs → Draft αs
  | _, .nil => ()
  | _, .cons _ fields => (none, fields.blank)

/-- Reads the colon and the value that follow a key; nothing if the key names no field.  A key must
not be repeated. -/
def readMember? (key : String) : {αs : List Type} → Fields αs → Draft αs → Option (Reader (Draft αs))
  | _, .nil, _ => none
  | _, .cons field fields, (value, draft) =>
    if key = field.key then
      some <| match value with
        | some _ => fail .mismatched
        | none => do
          readColon
          let value ← field.codec.read
          pure (some value, draft)
    else
      (fields.readMember? key draft).map fun reader => do
        let draft ← reader
        pure (value, draft)

/-- Reads a key, a colon and a value, which is skipped if the key names no field. -/
def readMember {αs : List Type} (fields : Fields αs) (draft : Draft αs) : Reader (Draft αs) := do
  let key ← readKey
  match fields.readMember? key draft with
  | some reader => reader
  | none =>
    readColon
    skipValue
    pure draft

/-- Completes a draft with fallbacks. -/
def complete? : {αs : List Type} → Fields αs → Draft αs → Option (Row αs)
  | _, .nil, _ => some ()
  | _, .cons field fields, (value, draft) => do
    let value ← value.or field.fallback
    let row ← fields.complete? draft
    pure (value, row)

/-- Completes a draft or finds a field missing. -/
def complete {αs : List Type} (fields : Fields αs) (draft : Draft αs) : Reader (Row αs) :=
  match fields.complete? draft with
  | some row => pure row
  | none => fail .mismatched

/-- Reads fields from the items of a list, up to its closing bracket. -/
def readItems (first : Bool) : {αs : List Type} → Fields αs → Reader (Row αs)
  | _, .nil => pure ()
  | _, .cons field fields => do
    match ← peek with
    | none => fail .ended
    | some closeBracket =>
      match field.fallback with
      | none => fail .mismatched
      | some value =>
        let row ← fields.readItems first
        pure (value, row)
    | some _ =>
      readComma first closeBracket
      let value ← field.codec.read
      let row ← fields.readItems false
      pure (value, row)

/-- Steps over a closing bracket. -/
def readCloseBracket : Reader Unit := do
  match ← peek with
  | none => fail .ended
  | some closeBracket => advance
  | some _ => fail .malformed

/-- Reads all fields from an object or a list. -/
def read {αs : List Type} (fields : Fields αs) : Reader (Row αs) := do
  match ← peekStart with
  | .object =>
    advance
    let draft ← readObject fields.readMember fields.blank
    fields.complete draft
  | .list =>
    advance
    let row ← fields.readItems true
    readCloseBracket
    pure row
  | _ => refuse

/-- The members of the object in which the fields are written. -/
def members : {αs : List Type} → Fields αs → Row αs → List (String × Json)
  | _, .nil, _ => []
  | _, .cons field fields, (value, row) =>
    if field.omits value then fields.members row
    else (field.key, field.codec.write value) :: fields.members row

/-- Takes in one member of which only a text was kept.  Where the key names a field, a value that is
no text does not fit. -/
def takeText {αs : List Type} (fields : Fields αs) (draft : Draft αs)
    (member : String × Option String) : Except Fault (Draft αs) :=
  match fields.readMember? member.1 draft with
  | none => .ok draft
  | some reader =>
    match member.2 with
    | none => .error .mismatched
    | some s => reader.whole (colon :: Text.bytesOf (String.ofList (quote s)))

/-- Reads all fields from members of which only the texts were kept. -/
def readTexts {αs : List Type} (fields : Fields αs) (members : List (String × Option String)) :
    Reader (Row αs) :=
  match members.foldlM fields.takeText fields.blank with
  | .ok draft => fields.complete draft
  | .error fault => fail fault

end Fields

/-- The form of a record with the given fields. -/
def Codec.record {αs : List Type} {β : Type} (fields : Fields αs) (build : Row αs → β)
    (split : β → Row αs) : Codec β where
  read := build <$> fields.read
  write value := .object (fields.members (split value))

end TeamCalendar.Json
