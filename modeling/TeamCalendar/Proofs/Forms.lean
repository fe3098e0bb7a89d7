import TeamCalendar.Forms
import TeamCalendar.Proofs.Identifier
import TeamCalendar.Proofs.Instant.RoundTrip
import TeamCalendar.Proofs.Json.Record

/-!
# The forms of the domain lose nothing

Whatever is written of the domain is read back as it was: identifiers and instants from their texts,
roles and statuses from their words, and everything else from its record.  An event with its
attendees is written as one object, and is read back from it all the same.
-/

namespace TeamCalendar

open Json (Codec Field Fields)
open Json.Fields (Restorable)

/-! ## Texts and words -/

theorem Id.restores_codec {kind : IdKind} : (Id.codec : Codec (Id kind)).Restores :=
  Codec.restores_parsed Id.parse?_text

theorem Instant.restores_codec : Instant.codec.Restores :=
  Codec.restores_parsed Instant.parse?_text

theorem Status.restores_codec : Status.codec.Restores :=
  Codec.restores_oneOf fun status => by cases status <;> rfl

theorem Role.restores_codec : Role.codec.Restores :=
  Codec.restores_oneOf fun role => by cases role <;> rfl

theorem ChangeKind.restores_codec : ChangeKind.codec.Restores :=
  Codec.restores_oneOf fun kind => by cases kind <;> rfl

/-! ## Records -/

theorem NewEvent.restorable_fields (location : Option String) :
    (NewEvent.fields location).Restorable := by
  refine .required Id.restores_codec ?_ <| .required Codec.restores_text ?_ <|
    .required Codec.restores_text ?_ <| .cons Codec.restores_text nofun ?_ <|
    .required Instant.restores_codec ?_ <| .required Instant.restores_codec ?_ .nil
  all_goals simp [Fields.keys, Field.required]

theorem NewEvent.restores_codec : NewEvent.codec.Restores :=
  Json.Codec.restores_record (restorable_fields none) fun _ => rfl

theorem Event.restorable_fields : Event.fields.Restorable :=
  .required Id.restores_codec (by decide) (NewEvent.restorable_fields none)

theorem Event.restores_codec : Event.codec.Restores :=
  Json.Codec.restores_record restorable_fields fun _ => rfl

theorem Patch.restores_codec : Patch.codec.Restores := by
  have htext := Codec.restores_text.nullable Codec.filled_text
  have hinstant := Instant.restores_codec.nullable Codec.filled_parsed
  refine Json.Codec.restores_record ?_ fun _ => rfl
  exact .optional htext (by decide) <| .optional htext (by decide) <|
    .optional hinstant (by decide) <| .optional hinstant (by decide) .nil

theorem AttendanceRecord.restores_codec : AttendanceRecord.codec.Restores := by
  refine Json.Codec.restores_record ?_ fun _ => rfl
  exact .required Id.restores_codec (by decide) <| .required Id.restores_codec (by decide) <|
    .required Id.restores_codec (by decide) <| .required Status.restores_codec (by decide) <|
    .required Instant.restores_codec (by decide) .nil

theorem Member.restores_codec : Member.codec.Restores := by
  refine Json.Codec.restores_record ?_ fun _ => rfl
  exact .required Id.restores_codec (by decide) <|
    .required Role.restores_codec (by decide) .nil

theorem Profile.restores_codec : Profile.codec.Restores := by
  refine Json.Codec.restores_record ?_ fun _ => rfl
  exact .required Codec.restores_text (by decide) <|
    .required Codec.restores_text (by decide) <|
    .required Codec.restores_text (by decide) .nil

theorem Attendee.restores_codec : Attendee.codec.Restores := by
  refine Json.Codec.restores_record ?_ fun _ => rfl
  exact .required Id.restores_codec (by decide) <|
    .required Codec.restores_text (by decide) <|
    .required Codec.restores_text (by decide) <|
    .required Codec.restores_text (by decide) <|
    .required Status.restores_codec (by decide) .nil

theorem Change.restorable_fields : Change.fields.Restorable := by
  have hstatus := Status.restores_codec.nullable Codec.filled_oneOf
  refine .required ChangeKind.restores_codec (by decide) <|
    .required Event.restores_codec (by decide) <|
    .required Id.restores_codec (by decide) <|
    .cons hstatus ?_ (by decide) <| .required Instant.restores_codec (by decide) .nil
  -- only the status of a change that is no response is left out
  intro status homitted
  rw [Option.isNone_iff_eq_none.1 homitted]

theorem Change.restores_codec : Change.codec.Restores :=
  Json.Codec.restores_record restorable_fields fun _ => rfl

/-! ## An event with its attendees -/

namespace EventDetails

open Json Json.Reader

/-- The members of an event with the texts that they have. -/
def texts (event : Event) : List (String × String) :=
  [("id", event.id.text), ("team_id", event.teamId.text), ("title", event.title),
   ("event_type", event.eventType), ("location", event.location),
   ("start_time", event.startTime.text), ("end_time", event.endTime.text)]

theorem members_eq (event : Event) :
    event.members = (texts event).map fun member => (member.1, .text member.2) :=
  rfl

theorem readWithin_text (depth : Nat) (s : String) (rest : List UInt8) :
    readWithin depth (bytes (.text s) ++ rest) = .ok (some s, rest) := by
  have hread := map_ok (readKey_text s rest) some
  rw [bytes_text] at hread ⊢
  unfold readWithin
  exact hread

/-- A member that is a text is kept as one. -/
theorem readMember_text {key s : String} (hkey : key ≠ attendanceKey) (reading : Reading)
    (rest : List UInt8) :
    readMember reading (memberBytes (key, .text s) ++ rest) =
      .ok ({ reading with others := (key, some s) :: reading.others }, rest) := by
  have hvalue := readWithin_text nestingLimit s rest
  rw [memberBytes, List.append_assoc, readMember, bind_ok (readKey_text _ _), if_neg hkey,
    List.cons_append, bind_ok (readColon_cons _), bind_ok hvalue]
  rfl

theorem readMember_attendance {reading : Reading} (hnone : reading.attendance = none)
    (attendance : List Attendee) (rest : List UInt8) :
    readMember reading
        (memberBytes (attendanceKey, (Codec.list Attendee.codec).write attendance) ++ rest) =
      .ok ({ reading with attendance := some attendance }, rest) := by
  have hvalue := Attendee.restores_codec.list.read_write attendance rest
  have hfirst : ¬ reading.attendance.isSome = true := by simp [hnone]
  rw [memberBytes, List.append_assoc, readMember, bind_ok (readKey_text _ _), if_pos rfl,
    if_neg hfirst, List.cons_append]
  exact (bind_ok (readColon_cons _) _).trans (bind_ok hvalue _)

theorem takes_texts {members : List (String × String)}
    (hkeys : ∀ member ∈ members, member.1 ≠ attendanceKey) (reading : Reading) :
    Takes readMember reading (members.map fun member => (member.1, .text member.2))
      { reading with
        others := (members.map fun member => (member.1, some member.2)).reverse ++
          reading.others } := by
  induction members generalizing reading with
  | nil => exact .nil _
  | cons member members ih =>
    rw [List.forall_mem_cons] at hkeys
    have hrest := ih hkeys.2 { reading with others := (member.1, some member.2) :: reading.others }
    refine .cons (fun rest => readMember_text hkeys.1 reading rest) ?_
    simpa using hrest

/-- The texts that were kept are taken in as the fields of the event. -/
theorem foldlM_takeText {αs : List Type} {fields : Fields αs} {draft draft' : Json.Draft αs}
    {members : List (String × String)}
    (h : fields.TakesAll draft (members.map fun member => (member.1, .text member.2)) draft') :
    (members.map fun member => (member.1, some member.2)).foldlM fields.takeText draft =
      .ok draft' := by
  induction members generalizing draft with
  | nil =>
    cases h
    rfl
  | cons member members ih =>
    cases h with
    | @cons _ between _ _ _ hentry hentries =>
      obtain ⟨reader, hreader, hread⟩ := hentry
      have htext : Text.bytesOf (String.ofList (quote member.2)) = bytes (.text member.2) :=
        Text.bytesOf_ofList _
      have hwhole := hread []
      rw [List.append_nil] at hwhole
      have htake : fields.takeText draft (member.1, some member.2) = .ok between := by
        rw [Fields.takeText, hreader]
        dsimp only
        rw [htext, Reader.whole, hwhole]
        rfl
      rw [List.map_cons, List.foldlM_cons, htake]
      exact ih hentries

theorem readTexts_texts (event : Event) (rest : List UInt8) :
    Event.fields.readTexts ((texts event).map fun member => (member.1, some member.2)) rest =
      .ok (event.toRow, rest) := by
  have hrestorable := Event.restorable_fields
  have htakes := hrestorable.takesAll event.toRow
  rw [Fields.readTexts, foldlM_takeText htakes]
  dsimp only
  rw [Fields.complete, hrestorable.complete?_written]
  rfl

/-- What is made of the members when all have been read. -/
def finish (reading : Reading) : Reader EventDetails :=
  match reading.attendance with
  | none => fail .mismatched
  | some attendance => do
    let row ← Event.fields.readTexts reading.others.reverse
    pure { event := Event.ofRow row, attendance }

theorem finish_texts (details : EventDetails) (rest : List UInt8) :
    finish
        { attendance := some details.attendance
          others := ((texts details.event).map fun member => (member.1, some member.2)).reverse }
        rest = .ok (details, rest) := by
  have htexts := readTexts_texts details.event rest
  rw [finish, List.reverse_reverse]
  exact bind_ok htexts _

theorem read_eq (input : List UInt8) :
    read (openBrace :: input) = (readObject readMember {} >>= finish) input :=
  rfl

theorem restores_codec : codec.Restores where
  read_write details rest := by
    have hkeys : ∀ member ∈ texts details.event, member.1 ≠ attendanceKey := by
      simp [texts, attendanceKey]
    have htexts := takes_texts hkeys {}
    rw [List.append_nil] at htexts
    have hmembers := htexts.append (.cons
      (fun rest => readMember_attendance rfl details.attendance rest) (.nil _))
    change read (bytes (.object (details.event.members ++ _)) ++ rest) = _
    rw [members_eq, bytes_object, List.cons_append, List.append_assoc, read_eq]
    exact (bind_ok (hmembers.readObject_eq rest) finish).trans (finish_texts details rest)
  starts details := ⟨openBrace, _, bytes_object _, .object⟩

end EventDetails

/-! ## Everything that is exchanged -/

/-- Nothing of the domain is lost in writing: not the strings, the identifiers or the times, and not
what is null or missing. -/
theorem forms_lossless :
    Event.codec.Lossless ∧ NewEvent.codec.Lossless ∧ Patch.codec.Lossless ∧
    AttendanceRecord.codec.Lossless ∧ Attendee.codec.Lossless ∧ EventDetails.codec.Lossless ∧
    Member.codec.Lossless ∧ Profile.codec.Lossless ∧ Change.codec.Lossless :=
  ⟨Event.restores_codec.lossless, NewEvent.restores_codec.lossless, Patch.restores_codec.lossless,
    AttendanceRecord.restores_codec.lossless, Attendee.restores_codec.lossless,
    EventDetails.restores_codec.lossless, Member.restores_codec.lossless,
    Profile.restores_codec.lossless, Change.restores_codec.lossless⟩

end TeamCalendar
