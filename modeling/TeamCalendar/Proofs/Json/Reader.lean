import TeamCalendar.Json.Reader
import TeamCalendar.Json.Value
import TeamCalendar.Proofs.Text.Utf8

/-!
# What readers read

The bytes of a value are those of its parts with marks around and between them.  A reader goes
through them one part at a time, whatever follows.

* `Reader.Repeats` describes a repetition that comes to its end, so that the bound on the number of
  its steps does not matter.
* `readList_separated` and `Takes.readObject_eq` tell what is read between brackets and braces.
-/

namespace TeamCalendar.Json

/-! ## The bytes of a value -/

/-- The bytes of the compact text of a value. -/
def bytes (value : Json) : List UInt8 :=
  Text.bytesOfChars value.render

theorem bytesOf_toText (value : Json) : Text.bytesOf value.toText = value.bytes :=
  Text.bytesOf_ofList _

/-- Puts commas between the bytes of parts. -/
def separated : List (List UInt8) → List UInt8
  | [] => []
  | part :: parts => part ++ parts.flatMap (comma :: ·)

theorem bytesOfChars_commaSeparated (parts : List (List Char)) :
    Text.bytesOfChars (commaSeparated parts) = separated (parts.map Text.bytesOfChars) := by
  have hcomma (part : List Char) (parts : List (List Char)) :
      commaSeparated (part :: parts) = part ++ parts.flatMap (',' :: ·) := by
    induction parts generalizing part with
    | nil => simp [commaSeparated]
    | cons next parts ih => rw [commaSeparated, ih, List.flatMap_cons, List.cons_append]; simp
  have hcommas (parts : List (List Char)) : Text.bytesOfChars (parts.flatMap (',' :: ·)) =
      (parts.map Text.bytesOfChars).flatMap (comma :: ·) := by
    induction parts with
    | nil => rfl
    | cons part parts ih =>
      rw [List.flatMap_cons, Text.bytesOfChars_append, ih]
      rfl
  cases parts with
  | nil => rfl
  | cons part parts =>
    rw [hcomma, Text.bytesOfChars_append, hcommas]
    rfl

/-- The bytes of a member of an object. -/
def memberBytes (member : String × Json) : List UInt8 :=
  bytes (.text member.1) ++ colon :: member.2.bytes

theorem bytes_text (s : String) :
    bytes (.text s) =
      quotationMark :: (Text.bytesOfChars (s.toList.flatMap escapeChar) ++ [quotationMark]) := by
  rw [bytes, render, quote, Text.bytesOfChars_append]
  rfl

theorem bytes_list (items : List Json) :
    bytes (.list items) = openBracket :: (separated (items.map bytes) ++ [closeBracket]) := by
  have hitems : (renderItems items).map Text.bytesOfChars = items.map bytes := by
    induction items with
    | nil => rfl
    | cons item items ih => rw [renderItems, List.map_cons, ih]; rfl
  rw [bytes, render, Text.bytesOfChars_append, Text.bytesOfChars_cons,
    bytesOfChars_commaSeparated, hitems]
  rfl

theorem bytes_object (members : List (String × Json)) :
    bytes (.object members) =
      openBrace :: (separated (members.map memberBytes) ++ [closeBrace]) := by
  have hmembers : (renderMembers members).map Text.bytesOfChars = members.map memberBytes := by
    induction members with
    | nil => rfl
    | cons member members ih =>
      obtain ⟨key, value⟩ := member
      rw [renderMembers, List.map_cons, ih, Text.bytesOfChars_append, Text.bytesOfChars_cons]
      rfl
  rw [bytes, render, Text.bytesOfChars_append, Text.bytesOfChars_cons,
    bytesOfChars_commaSeparated, hmembers]
  rfl

/-! ## Steps of a reader -/

namespace Reader

variable {α β σ : Type} {reader : Reader α} {input rest : List UInt8} {value : α}

theorem bind_ok (h : reader input = .ok (value, rest)) (next : α → Reader β) :
    (reader >>= next) input = next value rest := by
  change Except.bind (reader input) _ = _
  rw [h]
  rfl

/-- What is read in two steps is read by the second from where the first has stopped. -/
theorem bind_eq_ok_iff {next : α → Reader β} {result : β} :
    (reader >>= next) input = .ok (result, rest) ↔
      ∃ value between, reader input = .ok (value, between) ∧
        next value between = .ok (result, rest) := by
  constructor
  · intro h
    cases hfirst : reader input with
    | error fault =>
      change Except.bind (reader input) _ = _ at h
      rw [hfirst] at h
      cases h
    | ok outcome =>
      rw [bind_ok hfirst] at h
      exact ⟨outcome.1, outcome.2, rfl, h⟩
  · rintro ⟨value, between, hfirst, hnext⟩
    rw [bind_ok hfirst]
    exact hnext

theorem map_ok (h : reader input = .ok (value, rest)) (f : α → β) :
    (f <$> reader) input = .ok (f value, rest) := by
  change Except.bind (reader input) _ = _
  rw [h]
  rfl

/-- A repetition comes to its end, and each step before the last one consumes something. -/
inductive Repeats (step : σ → Reader (Progress σ α)) : σ → List UInt8 → α → List UInt8 → Prop where
  | done {state : σ} {input rest : List UInt8} {value : α}
    (hstep : step state input = .ok (.done value, rest)) : Repeats step state input value rest
  | again {state state' : σ} {input between rest : List UInt8} {value : α}
    (hstep : step state input = .ok (.again state', between))
    (hless : between.length < input.length) (hrest : Repeats step state' between value rest) :
    Repeats step state input value rest

/-- The bound on the steps suffices. -/
theorem Repeats.repeated_eq {step : σ → Reader (Progress σ α)} {state : σ}
    (h : Repeats step state input value rest) : repeated step state input = .ok (value, rest) := by
  have hwithin : ∀ bound : List UInt8, input.length < bound.length →
      repeatedWithin step bound state input = .ok (value, rest) := by
    induction h with
    | done hstep =>
      intro bound hbound
      cases bound with
      | nil => cases hbound
      | cons b bound =>
        rw [repeatedWithin, bind_ok hstep]
        rfl
    | again hstep hless hrest ih =>
      intro bound hbound
      cases bound with
      | nil => cases hbound
      | cons b bound =>
        rw [repeatedWithin, bind_ok hstep]
        exact ih bound (by simp only [List.length_cons] at hbound; omega)
  exact hwithin _ (Nat.lt_succ_self _)

end Reader

open Reader

/-! ## Lists and objects -/

variable {α σ : Type}

theorem readColon_cons (rest : List UInt8) : readColon (colon :: rest) = .ok ((), rest) :=
  rfl

/-- Bytes with which values start. -/
inductive Opener : UInt8 → Prop where
  | text : Opener quotationMark
  | list : Opener openBracket
  | object : Opener openBrace
  | null : Opener 0x6e

/-- One step of reading a list. -/
def listStep (item : Reader α) : Bool × List α → Reader (Progress (Bool × List α) (List α))
  | (first, items) => do
    match ← peek with
    | none => fail .ended
    | some closeBracket =>
      advance
      pure (.done items.reverse)
    | some _ =>
      readComma first closeBracket
      let value ← item
      pure (.again (false, value :: items))

theorem readList_eq (item : Reader α) : readList item = repeated (listStep item) (true, []) :=
  rfl

theorem listStep_close (item : Reader α) (first : Bool) (items : List α) (rest : List UInt8) :
    listStep item (first, items) (closeBracket :: rest) = .ok (.done items.reverse, rest) :=
  rfl

theorem listStep_first {item : Reader α} {items : List α} {b : UInt8} {tail rest : List UInt8}
    {value : α} (hb : Opener b) (hitem : item (b :: tail) = .ok (value, rest)) :
    listStep item (true, items) (b :: tail) = .ok (.again (false, value :: items), rest) := by
  let more (value : α) : Reader (Progress (Bool × List α) (List α)) :=
    pure (.again (false, value :: items))
  have hread : (item >>= more) (b :: tail) = .ok (.again (false, value :: items), rest) :=
    bind_ok hitem more
  cases hb <;> exact hread

theorem listStep_next {item : Reader α} {items : List α} {b : UInt8} {tail rest : List UInt8}
    {value : α} (hb : Opener b) (hitem : item (b :: tail) = .ok (value, rest)) :
    listStep item (false, items) (comma :: b :: tail) =
      .ok (.again (false, value :: items), rest) := by
  let more (value : α) : Reader (Progress (Bool × List α) (List α)) :=
    pure (.again (false, value :: items))
  have hread : (item >>= more) (b :: tail) = .ok (.again (false, value :: items), rest) :=
    bind_ok hitem more
  cases hb <;> exact hread

/-- The bytes start as those of a value do. -/
def StartsValue (part : List UInt8) : Prop :=
  ∃ b tail, part = b :: tail ∧ Opener b

/-- After the first value of a list a comma stands before each. -/
theorem repeats_listStep {item : Reader α} {write : α → List UInt8} {values : List α}
    (hitem : ∀ value rest, item (write value ++ rest) = .ok (value, rest))
    (hstart : ∀ value, StartsValue (write value)) (read : List α) (rest : List UInt8) :
    Repeats (listStep item) (false, read)
      ((values.map write).flatMap (comma :: ·) ++ closeBracket :: rest)
      (read.reverse ++ values) rest := by
  induction values generalizing read with
  | nil =>
    rw [List.append_nil]
    exact .done (listStep_close item false read rest)
  | cons value values ih =>
    obtain ⟨b, tail, hwrite, hb⟩ := hstart value
    have hread := hitem value ((values.map write).flatMap (comma :: ·) ++ closeBracket :: rest)
    rw [hwrite] at hread
    have hmore := ih (value :: read)
    rw [List.reverse_cons, List.append_assoc, List.singleton_append] at hmore
    rw [List.map_cons, List.flatMap_cons, hwrite, List.append_assoc]
    refine .again (listStep_next hb hread) ?_ hmore
    simp only [List.length_append, List.length_cons]
    omega

/-- The values of a list are read one after the other. -/
theorem readList_separated {item : Reader α} {write : α → List UInt8}
    (hitem : ∀ value rest, item (write value ++ rest) = .ok (value, rest))
    (hstart : ∀ value, StartsValue (write value)) (values : List α) (rest : List UInt8) :
    readList item (separated (values.map write) ++ closeBracket :: rest) = .ok (values, rest) := by
  rw [readList_eq]
  apply Repeats.repeated_eq
  cases values with
  | nil => exact .done (listStep_close item true [] rest)
  | cons value values =>
    obtain ⟨b, tail, hwrite, hb⟩ := hstart value
    have hread := hitem value ((values.map write).flatMap (comma :: ·) ++ closeBracket :: rest)
    rw [hwrite] at hread
    rw [List.map_cons, separated, hwrite, List.append_assoc]
    refine .again (listStep_first hb hread) ?_ (repeats_listStep hitem hstart [value] rest)
    simp only [List.length_append, List.length_cons]
    omega

/-- One step of reading an object. -/
def objectStep (member : σ → Reader σ) : Bool × σ → Reader (Progress (Bool × σ) σ)
  | (first, state) => do
    match ← peek with
    | none => fail .ended
    | some closeBrace =>
      advance
      pure (.done state)
    | some _ =>
      readComma first closeBrace
      match ← peek with
      | some quotationMark =>
        let state ← member state
        pure (.again (false, state))
      | _ => fail .malformed

theorem readObject_eq (member : σ → Reader σ) (state : σ) :
    readObject member state = repeated (objectStep member) (true, state) :=
  rfl

theorem objectStep_close (member : σ → Reader σ) (first : Bool) (state : σ) (rest : List UInt8) :
    objectStep member (first, state) (closeBrace :: rest) = .ok (.done state, rest) :=
  rfl

theorem objectStep_first {member : σ → Reader σ} {state state' : σ} {tail rest : List UInt8}
    (hmember : member state (quotationMark :: tail) = .ok (state', rest)) :
    objectStep member (true, state) (quotationMark :: tail) =
      .ok (.again (false, state'), rest) := by
  let more (state : σ) : Reader (Progress (Bool × σ) σ) := pure (.again (false, state))
  have hread : (member state >>= more) (quotationMark :: tail) =
      .ok (.again (false, state'), rest) := bind_ok hmember more
  exact hread

theorem objectStep_next {member : σ → Reader σ} {state state' : σ} {tail rest : List UInt8}
    (hmember : member state (quotationMark :: tail) = .ok (state', rest)) :
    objectStep member (false, state) (comma :: quotationMark :: tail) =
      .ok (.again (false, state'), rest) := by
  let more (state : σ) : Reader (Progress (Bool × σ) σ) := pure (.again (false, state))
  have hread : (member state >>= more) (quotationMark :: tail) =
      .ok (.again (false, state'), rest) := bind_ok hmember more
  exact hread

/-- Members of an object are taken into a state, one after the other. -/
inductive Takes (member : σ → Reader σ) : σ → List (String × Json) → σ → Prop where
  | nil (state : σ) : Takes member state [] state
  | cons {state between state' : σ} {entry : String × Json} {entries : List (String × Json)}
    (hentry : ∀ rest, member state (memberBytes entry ++ rest) = .ok (between, rest))
    (hentries : Takes member between entries state') :
    Takes member state (entry :: entries) state'

theorem Takes.append {member : σ → Reader σ} {state between state' : σ}
    {entries others : List (String × Json)} (h : Takes member state entries between)
    (hothers : Takes member between others state') :
    Takes member state (entries ++ others) state' := by
  induction h with
  | nil state => exact hothers
  | cons hentry hentries ih => exact .cons hentry (ih hothers)

theorem exists_memberBytes_eq (entry : String × Json) :
    ∃ tail, memberBytes entry = quotationMark :: tail := by
  rw [memberBytes, bytes_text]
  exact ⟨_, rfl⟩

/-- After the first member of an object a comma stands before each. -/
theorem Takes.repeats {member : σ → Reader σ} {state state' : σ}
    {entries : List (String × Json)} (h : Takes member state entries state')
    (rest : List UInt8) :
    Repeats (objectStep member) (false, state)
      ((entries.map memberBytes).flatMap (comma :: ·) ++ closeBrace :: rest) state' rest := by
  induction h with
  | nil state => exact .done (objectStep_close member false state rest)
  | @cons state between state' entry entries hentry hentries ih =>
    obtain ⟨tail, htail⟩ := exists_memberBytes_eq entry
    have hread := hentry ((entries.map memberBytes).flatMap (comma :: ·) ++ closeBrace :: rest)
    rw [htail] at hread
    rw [List.map_cons, List.flatMap_cons, htail, List.append_assoc]
    refine .again (objectStep_next hread) ?_ ih
    simp only [List.length_append, List.length_cons]
    omega

/-- The members of an object are read one after the other. -/
theorem Takes.readObject_eq {member : σ → Reader σ} {state state' : σ}
    {entries : List (String × Json)} (h : Takes member state entries state')
    (rest : List UInt8) :
    readObject member state (separated (entries.map memberBytes) ++ closeBrace :: rest) =
      .ok (state', rest) := by
  rw [Json.readObject_eq]
  apply Repeats.repeated_eq
  cases h with
  | nil => exact .done (objectStep_close member true state rest)
  | @cons _ between _ entry entries hentry hentries =>
    obtain ⟨tail, htail⟩ := exists_memberBytes_eq entry
    have hread := hentry ((entries.map memberBytes).flatMap (comma :: ·) ++ closeBrace :: rest)
    rw [htail] at hread
    rw [List.map_cons, separated, htail, List.append_assoc]
    refine .again (objectStep_first hread) ?_ (hentries.repeats rest)
    simp only [List.length_append, List.length_cons]
    omega

end TeamCalendar.Json
