import TeamCalendar.Delivery
import TeamCalendar.Proofs.Forms
import TeamCalendar.Proofs.Http.Token
import TeamCalendar.Proofs.Json.Skip

/-!
# What is delivered

A delivery is one message.  Its body starts with the topic, and all the same the change is read from
it as it was.  The header repeats the topic; under a secret it also has the signature of just that
body.

* `Http.all_isValueByte_iff` says which texts may stand in a header.
* `Delivery.Carries` says what the receiver of a message finds in it.
-/

namespace TeamCalendar

/-! ## Texts in a header -/

namespace Http

/-- Whether a character is a control character of the Basic Latin block. -/
def isControl (c : Char) : Bool :=
  c.toNat < 0x20 || c.toNat == 0x7f

/-- A text may stand in a header if it has no control characters but tabs. -/
def IsClear (s : String) : Prop :=
  ∀ c ∈ s.toList, isControl c = true → c = '\t'

-- by going through the text: there are too many characters to go through all of them
instance (s : String) : Decidable (IsClear s) :=
  List.decidableBAll (fun c => isControl c = true → c = '\t') s.toList

theorem all_isValueByte_utf8EncodeChar (c : Char) :
    (∀ b ∈ String.utf8EncodeChar c, isValueByte b = true) ↔ (isControl c = true → c = '\t') := by
  cases hlatin : Text.isBasicLatin c with
  | false =>
    have hlarge : ¬ c.toNat < 0x80 := of_decide_eq_false hlatin
    refine iff_of_true ?_ ?_
    · intro b hb
      have hbyte := UInt8.le_iff_toNat_le.1 (Text.le_of_mem_utf8EncodeChar hlatin hb)
      simp only [isValueByte, Bool.or_eq_true, Bool.and_eq_true, beq_iff_eq, bne_iff_ne,
        decide_eq_true_eq, ne_eq, ← UInt8.toNat_inj, UInt8.le_iff_toNat_le, UInt8.toNat_ofNat]
        at hbyte ⊢
      omega
    · intro hcontrol
      simp only [isControl, Bool.or_eq_true, decide_eq_true_eq, beq_iff_eq] at hcontrol
      omega
  | true =>
    have hsmall : c.toNat < 0x80 := of_decide_eq_true hlatin
    have hbyte : (UInt8.ofNat c.toNat).toNat = c.toNat :=
      UInt8.toNat_ofNat_of_lt' (by change c.toNat < 256; omega)
    have htab : c = '\t' ↔ c.toNat = 9 := Char.toNat_inj.symm
    rw [Text.utf8EncodeChar_of_isBasicLatin hlatin, List.forall_mem_singleton, htab]
    simp only [isValueByte, isControl, Bool.or_eq_true, Bool.and_eq_true, beq_iff_eq, bne_iff_ne,
      decide_eq_true_eq, ne_eq, ← UInt8.toNat_inj, UInt8.le_iff_toNat_le, UInt8.toNat_ofNat, hbyte]
    omega

/-- The value of a field may be sent exactly if it has no control characters but tabs. -/
theorem all_isValueByte_iff (s : String) :
    (Text.bytesOf s).all isValueByte = true ↔ IsClear s := by
  rw [List.all_eq_true, Text.bytesOf_eq_flatMap]
  constructor
  · intro h c hc
    exact (all_isValueByte_utf8EncodeChar c).1 fun b hb => h b (List.mem_flatMap.2 ⟨c, hc, hb⟩)
  · intro h b hb
    obtain ⟨c, hc, hb⟩ := List.mem_flatMap.1 hb
    exact (all_isValueByte_utf8EncodeChar c).2 (h c hc) b hb

/-- In a header whose fields have different names each field stands alone. -/
theorem Headers.sole_of_mem {headers : Headers} {field : Field}
    (hnames : headers.Pairwise fun a b => a.name.toLower ≠ b.name.toLower)
    (hfield : field ∈ headers) : headers.Sole field.name field.value := by
  unfold Sole
  induction headers with
  | nil => cases hfield
  | cons first rest ih =>
    obtain ⟨hfirst, hrest⟩ := List.pairwise_cons.1 hnames
    rcases List.mem_cons.1 hfield with rfl | hlater
    · have hnamed : field.isNamed field.name = true := beq_self_eq_true _
      have hothers : rest.filter (·.isNamed field.name) = [] := by
        refine List.filter_eq_nil_iff.2 fun other hother => ?_
        rw [Field.isNamed, beq_iff_eq]
        exact (hfirst other hother).symm
      rw [List.filter_cons, if_pos hnamed, hothers]
      rfl
    · have hother : ¬ first.isNamed field.name = true := by
        rw [Field.isNamed, beq_iff_eq]
        exact hfirst field hlater
      rw [List.filter_cons, if_neg hother]
      exact ih hrest hlater

end Http

/-! ## The body -/

namespace Json

open Reader

/-- Reads the first member of an object, whose value has to be a text. -/
def readFirst : Reader (String × String) := do
  require openBrace
  let key ← Codec.readText
  readColon
  let value ← Codec.readText
  pure (key, value)

theorem readFirst_object (key s : String) (members : List (String × Json)) :
    readFirst.front (bytes (.object ((key, .text s) :: members))) = .ok (key, s) := by
  have hopen (input : List UInt8) : require openBrace (openBrace :: input) = .ok ((), input) := rfl
  have htext (s : String) (rest : List UInt8) :
      Codec.readText (bytes (.text s) ++ rest) = .ok (s, rest) :=
    Codec.restores_text.read_write s rest
  rw [Reader.front, bytes_object, List.map_cons, separated, memberBytes, List.append_assoc,
    List.append_assoc, List.cons_append, readFirst, bind_ok (hopen _), bind_ok (htext _ _),
    bind_ok (readColon_cons _), bind_ok (htext _ _)]
  rfl

end Json

/-- A change is read from its form under a topic, whatever the topic is. -/
theorem Change.read_envelope (change : Change) (topic : String) (rest : List UInt8) :
    Change.codec.read ((change.envelope topic).bytes ++ rest) = .ok (change, rest) := by
  have hkey : "topic" ∉ Change.fields.keys := by decide
  have hrow := Change.restorable_fields.read_object_after hkey topic change.toRow rest
  exact Json.Reader.map_ok hrow Change.ofRow

namespace Delivery

theorem decode_body (topic : String) (change : Change) :
    Change.codec.decode (Text.bytesOf (body topic change)) = .ok change := by
  have hread := change.read_envelope topic []
  rw [List.append_nil] at hread
  rw [Json.Codec.decode, body, Json.bytesOf_toText, Json.Reader.whole, hread]
  rfl

theorem readFirst_body (topic : String) (change : Change) :
    Json.readFirst.front (Text.bytesOf (body topic change)) = .ok ("topic", topic) := by
  rw [body, Json.bytesOf_toText, Change.envelope, Json.readFirst_object]

/-! ## The signature -/

/-- Digits by which the signature of a payload under a secret is given. -/
structure Signs (digits : List Char) (secret payload : String) : Prop where
  length : digits.length = 64
  lower : ∀ c ∈ digits, c ∈ "0123456789abcdef".toList
  digest : Text.ofHexBytes? digits =
    some (Digest.Hmac.sign (Text.bytesOf secret) (Text.bytesOf payload))

/-- A signature is given by its digits. -/
theorem exists_signs (secret payload : String) :
    ∃ digits, signature secret payload = "sha256=" ++ String.ofList digits ∧
      Signs digits secret payload := by
  have hdigit : ∀ d < 16, Text.hexDigit d ∈ "0123456789abcdef".toList := by decide +kernel
  let digest := Digest.Hmac.sign (Text.bytesOf secret) (Text.bytesOf payload)
  refine ⟨Text.hexBytes digest, rfl, ?_, ?_, Text.ofHexBytes?_hexBytes digest⟩
  · rw [Text.length_hexBytes, Digest.Hmac.length_sign]
  · intro c hc
    obtain ⟨d, hd, rfl⟩ := Text.exists_of_mem_hexBytes hc
    exact hdigit d hd

/-- The second test case of RFC 4231. -/
example : signature "Jefe" "what do ya want for nothing?" =
    "sha256=5bdcc146bf60754e6a042426089575c75a003f089d2739839dec58b964ec3843" := by
  decide +kernel

/-- The sixth test case of RFC 4231, whose key is longer than a block. -/
example : Text.hexBytes (Digest.Hmac.sign (List.replicate 131 0xaa)
      (Text.bytesOf "Test Using Larger Than Block-Size Key - Hash Key First")) =
    "60e431591ee0b67f0d8a26aacbf5b77f8e0bc6213728c5140546040f0ee37f54".toList := by
  decide +kernel

/-- A signature may always stand in a header. -/
theorem isClear_signature (secret payload : String) : Http.IsClear (signature secret payload) := by
  obtain ⟨digits, hsignature, hsigns⟩ := exists_signs secret payload
  have hprefix : Http.IsClear "sha256=" := by decide +kernel
  have hdigits : Http.IsClear "0123456789abcdef" := by decide +kernel
  rw [hsignature]
  intro c hc
  rw [String.toList_append, List.mem_append] at hc
  rcases hc with hc | hc
  · exact hprefix c hc
  · rw [String.toList_ofList] at hc
    exact hdigits c (hsigns.lower c hc)

/-! ## The message -/

/-- What the receiver of a message finds in it. -/
structure Carries (message : Web.Message) (topic : String) (secret : Option String)
    (change : Change) : Prop where
  method : message.method = "POST"
  body : message.body = Delivery.body topic change
  contentType : message.headers.Sole "Content-Type" (Text.bytesOf "application/json")
  /-- The change is read from the body. -/
  decoded : Change.codec.decode (Text.bytesOf message.body) = .ok change
  /-- The topic comes first in the body. -/
  first : Json.readFirst.front (Text.bytesOf message.body) = .ok ("topic", topic)
  /-- The topic is repeated in the header. -/
  topic : message.headers.Sole topicField (Text.bytesOf topic)
  unsigned : secret = none → ∀ field ∈ message.headers, field.isNamed signatureField = false
  /-- The signature is that of the whole body. -/
  signed : ∀ key, secret = some key → ∃ digits, Signs digits key message.body ∧
    message.headers.Sole signatureField (Text.bytesOf ("sha256=" ++ String.ofList digits))

/-- The header may be sent exactly if the topic may stand in it. -/
theorem all_isLegal_headers (topic : String) (secret : Option String) (payload : String) :
    (headers topic secret payload).all (·.isLegal) = true ↔ Http.IsClear topic := by
  have hnames : Http.isFieldName "Content-Type" = true ∧ Http.isFieldName topicField = true ∧
      Http.isFieldName signatureField = true := by
    decide +kernel
  have htype : Http.IsClear "application/json" := by decide +kernel
  have hsignature (key : String) := isClear_signature key payload
  rw [← Http.all_isValueByte_iff] at htype
  simp only [← Http.all_isValueByte_iff] at hsignature
  cases secret <;>
    simp [headers, Http.Field.isLegal, Http.Field.ofText, hnames, htype, hsignature,
      ← Http.all_isValueByte_iff]

/-- The message in which a change is delivered, if it may be sent. -/
def message (url topic : String) (secret : Option String) (change : Change) : Web.Message where
  method := "POST"
  url := url
  headers := headers topic secret (body topic change)
  body := body topic change

theorem message?_eq (url topic : String) (secret : Option String) (change : Change) :
    message? url topic secret change =
      if Http.IsClear topic then some (message url topic secret change) else none := by
  unfold message?
  simp only [all_isLegal_headers]
  rfl

/-- One message is sent if the topic may stand in a header, and none otherwise. -/
theorem deliver_eq (url topic : String) (secret : Option String) (change : Change) :
    deliver url topic secret change =
      if Http.IsClear topic then .ask (message url topic secret change) fun _ => .done ()
      else .done () := by
  rw [deliver, message?_eq]
  by_cases hclear : Http.IsClear topic
  · rw [if_pos hclear, if_pos hclear]
    rfl
  · rw [if_neg hclear, if_neg hclear]
    rfl

theorem fieldNames_ne : "Content-Type".toLower ≠ topicField.toLower ∧
    "Content-Type".toLower ≠ signatureField.toLower ∧
    topicField.toLower ≠ signatureField.toLower := by
  decide +kernel

/-- The fields of the header have different names. -/
theorem pairwise_headers (topic : String) (secret : Option String) (payload : String) :
    (headers topic secret payload).Pairwise fun a b => a.name.toLower ≠ b.name.toLower := by
  cases secret <;> simp [headers, Http.Field.ofText, fieldNames_ne]

theorem isNamed_signatureField_eq_false (topic payload : String) :
    ∀ field ∈ headers topic none payload, field.isNamed signatureField = false := by
  obtain ⟨-, htype, htopic⟩ := fieldNames_ne
  simp [headers, Http.Field.isNamed, Http.Field.ofText, htype, htopic]

theorem carries_message (url topic : String) (secret : Option String) (change : Change) :
    Carries (message url topic secret change) topic secret change := by
  have hsole (field : Http.Field) (hfield : field ∈ headers topic secret (body topic change)) :=
    Http.Headers.sole_of_mem (pairwise_headers topic secret _) hfield
  refine {
    method := rfl
    body := rfl
    contentType := hsole (.ofText "Content-Type" "application/json") (by simp [headers])
    decoded := decode_body topic change
    first := readFirst_body topic change
    topic := hsole (.ofText topicField topic) (by simp [headers])
    unsigned := ?_
    signed := ?_ }
  · rintro rfl
    exact isNamed_signatureField_eq_false topic _
  · rintro key rfl
    obtain ⟨digits, hsignature, hsigns⟩ := exists_signs key (body topic change)
    refine ⟨digits, hsigns, ?_⟩
    rw [← hsignature]
    exact hsole (.ofText signatureField (signature key (body topic change))) (by simp [headers])

theorem isSendable_message {topic : String} (hclear : Http.IsClear topic) (url : String)
    (secret : Option String) (change : Change) :
    (message url topic secret change).isSendable = Web.isAddress url := by
  have hheaders := (all_isLegal_headers topic secret (body topic change)).2 hclear
  change (Web.isAddress url && (headers topic secret (body topic change)).all (·.isLegal)) = _
  rw [hheaders, Bool.and_true]

/-- If the topic may stand in a header, then a change is delivered by one message, which carries it
and can be sent to every address to which any message can be sent. -/
theorem deliver_carries (url : String) {topic : String} (secret : Option String) (change : Change)
    (hlegal : (Text.bytesOf topic).all Http.isValueByte = true) :
    ∃ message : Web.Message,
      deliver url topic secret change = .ask message (fun _ => .done ()) ∧
      message.url = url ∧ message.isSendable = Web.isAddress url ∧
      Carries message topic secret change := by
  have hclear := (Http.all_isValueByte_iff topic).1 hlegal
  refine ⟨message url topic secret change, ?_, rfl, isSendable_message hclear url secret change,
    carries_message url topic secret change⟩
  rw [deliver_eq, if_pos hclear]

/-- A response to an event is delivered under a topic in which characters have to be escaped. -/
theorem deliver_carries_sample :
    ∃ change : Change, change.attendanceStatus = some .accepted ∧
      (Text.bytesOf "\u00e9quipe\t\"1\"").all Http.isValueByte = true ∧
      ∃ message : Web.Message,
        deliver "http://127.0.0.1/hook" "\u00e9quipe\t\"1\"" (some "Jefe") change =
          .ask message (fun _ => .done ()) ∧
        message.url = "http://127.0.0.1/hook" ∧ message.isSendable = true ∧
        Carries message "\u00e9quipe\t\"1\"" (some "Jefe") change := by
  let change : Change :=
    { kind := .attendanceUpdated
      event :=
        { id := ⟨0x70⟩, teamId := ⟨0x11⟩, title := "Training", eventType := "practice"
          location := "Hall", startTime := .epoch, endTime := ⟨3600, 1, by decide⟩ }
      actorId := ⟨0xc1⟩
      attendanceStatus := some .accepted
      occurredAt := ⟨1800, 5, by decide⟩ }
  have hlegal : (Text.bytesOf "\u00e9quipe\t\"1\"").all Http.isValueByte = true := by
    decide +kernel
  have haddress : Web.isAddress "http://127.0.0.1/hook" = true := by decide +kernel
  obtain ⟨message, hdeliver, hurl, hsendable, hcarries⟩ :=
    deliver_carries "http://127.0.0.1/hook" (some "Jefe") change hlegal
  exact ⟨change, rfl, hlegal, message, hdeliver, hurl, hsendable.trans haddress, hcarries⟩

end Delivery

end TeamCalendar
