import MessageContract.Proofs.DeclaredVersion
import MessageContract.Proofs.Messages
import MessageContract.Proofs.Validation

/-!
# Declared schema formats

A message declares the format of its payload beside it in 2.x, and in 3.x inside it, where an
object carries a format and a schema (`Rules.Declares`). A text that is declared counts: it is
covered by a format of the registry, by which the payload was converted, and the format of the
version counts only where nothing is declared (`Rules.Honors`). What is declared and is no text is
passed over, and that is the only exception (`Parse.declared_formats_count`): an object around a
schema is then taken for a schema itself, which asks for nothing (`Parse.declared_format_ignored`).
-/

namespace MessageContract
namespace Rules

/-- A message declares a format, whatever value that has, and what is written in it. -/
inductive Declares (v : Version) (message : Json) : Json → Json → Prop
  | beside {format schema : Json} (major : v.isV2 = true)
      (named : message.get? "schemaFormat" = some format)
      (payload : message.get? "payload" = some schema) : Declares v message format schema
  | inside {payload format schema : Json} (major : v.isV3 = true)
      (member : message.get? "payload" = some payload)
      (named : payload.get? "schemaFormat" = some format)
      (carried : payload.get? "schema" = some schema) : Declares v message format schema

/-- The payload of a message is what the registry's format for an identifier makes of a schema. -/
def Exposes (formats : Registry) (id : String) (schema : Json) (m : Message) : Prop :=
  m.schemaFormat = id ∧
    ∃ f out, formats.Reads id f ∧ f.convert schema = .ok out ∧ m.payload = some out

/-- What a message declares counts. -/
structure Honors (formats : Registry) (v : Version) (message : Json) (m : Message) : Prop where
  declared : ∀ format schema, Declares v message format schema →
    ∃ id, format = .str id ∧ Exposes formats id schema m
  undeclared : (∀ format schema, ¬ Declares v message format schema) →
    ∀ payload, message.get? "payload" = some payload →
      Exposes formats v.defaultFormat payload m

variable {doc : Json} {v : Version} {formats : Registry} {checked : Bool} {key : String}
  {message : Members} {m : Message}

/-- A message that is built exposes its payload, as it is read. -/
theorem exposes_of_payload (hv : v ∈ Version.supported)
    (h : buildMessage doc formats checked v key message = .ok m) {id : String} {schema : Json}
    (hpayload : Payload v message id schema) : Exposes formats id schema m := by
  obtain ⟨hraw, hid⟩ := (payload_iff hv key).1 hpayload
  obtain ⟨_, _, hformat, hcases⟩ := buildMessage_ok h
  rcases hcases with ⟨hnone, _⟩ | ⟨raw, f, out, hraw', hf, hout, hm, _⟩
  · rw [hraw] at hnone
    cases hnone
  · obtain rfl := Option.some.inj (hraw.symm.trans hraw')
    rw [hformat, hid] at hf
    exact ⟨hformat.trans hid, f, out, Registry.find?_eq_some_iff.1 hf, hout, hm⟩

theorem Declares.payload_of_text {id : String} {schema : Json}
    (h : Declares v (.obj message) (.str id) schema) : Payload v message id schema := by
  cases h with
  | beside major named payload => exact .declared major payload named
  | inside major member named carried => exact .carried major member ⟨named, carried⟩

/-- Where what is declared is no text, the payload is read as if nothing were declared. -/
theorem Declares.payload_of_other {format schema payload : Json}
    (h : Declares v (.obj message) format schema) (hother : ∀ id, format ≠ .str id)
    (hpayload : Members.get? message "payload" = some payload) :
    Payload v message v.defaultFormat payload := by
  cases h with
  | beside major named _ =>
    refine .undeclared major hpayload fun id hid => ?_
    exact hother id (Option.some.inj (named.symm.trans hid))
  | inside major member named _ =>
    obtain rfl := Option.some.inj (hpayload.symm.trans member)
    refine .bare major hpayload fun id schema hmulti => ?_
    exact hother id (Option.some.inj (named.symm.trans hmulti.1))

theorem payload_of_undeclared (hv : v ∈ Version.supported)
    (h : ∀ format schema, ¬ Declares v (.obj message) format schema) {payload : Json}
    (hpayload : Members.get? message "payload" = some payload) :
    Payload v message v.defaultFormat payload := by
  cases hmajor : v.isV3 with
  | true =>
    refine .bare hmajor hpayload fun id schema hmulti => ?_
    exact h _ schema (.inside hmajor hpayload hmulti.1 hmulti.2)
  | false =>
    have hmajor' : v.isV2 = true := by rw [Version.isV2_eq hv, hmajor]; rfl
    exact .undeclared hmajor' hpayload fun id hid => h _ payload (.beside hmajor' hid hpayload)

/-- What a message declares counts exactly if it is a text. -/
theorem honors_iff (hv : v ∈ Version.supported)
    (h : buildMessage doc formats checked v key message = .ok m) :
    Honors formats v (.obj message) m ↔
      ∀ format schema, Declares v (.obj message) format schema → ∃ id, format = .str id := by
  constructor
  · intro hhonors format schema hdeclares
    obtain ⟨id, hid, _⟩ := hhonors.declared format schema hdeclares
    exact ⟨id, hid⟩
  · intro htexts
    refine ⟨fun format schema hdeclares => ?_, fun hnone payload hpayload => ?_⟩
    · obtain ⟨id, rfl⟩ := htexts format schema hdeclares
      exact ⟨id, rfl, exposes_of_payload hv h hdeclares.payload_of_text⟩
    · exact exposes_of_payload hv h (payload_of_undeclared hv hnone hpayload)

end Rules

namespace Parse

/-- In an accepted document the format that a message declares counts exactly if it is a text. What
else is declared is passed over: the payload is read in the format of the version. -/
theorem declared_formats_count {w : World} {settings : FetchSettings} {options : ParseOptions}
    {location : Location} {input : Input} {d : Document}
    (hd : (run w settings options location input).document = some d)
    (hcore : options.core = true) :
    ∃ ms, Rules.Lists d.json ms ∧ List.Forall₂ (fun n m => m.key = n.1 ∧
      (Rules.Honors options.formats d.version n.2 m ↔
        ∀ format schema, Rules.Declares d.version n.2 format schema →
          ∃ id, format = .str id) ∧
      ∀ format schema payload, Rules.Declares d.version n.2 format schema →
        (∀ id, format ≠ .str id) → n.2.get? "payload" = some payload →
          Rules.Exposes options.formats d.version.defaultFormat payload m) ms d.messages := by
  obtain ⟨raw, _, haccepted⟩ := accepted_of_document hd
  obtain ⟨hv, _⟩ := Rules.version_eq_ok_iff.1 haccepted.version
  refine ⟨_, haccepted.lists_messages hcore, (haccepted.forall₂_built hcore).imp ?_⟩
  rintro ⟨key, value⟩ m ⟨message, rfl, hm⟩
  obtain ⟨hkey, _⟩ := Rules.buildMessage_ok hm
  refine ⟨hkey, Rules.honors_iff hv hm, fun format schema payload hdeclares hother hpayload => ?_⟩
  exact Rules.exposes_of_payload hv hm (hdeclares.payload_of_other hother hpayload)

end Parse

/-! ## A format that is a number -/

/-- The members of an object around a schema that nothing passes, in a format that is a number. -/
def Json.numbered : Members := [("schemaFormat", .int 42), ("schema", .bool false)]

/-- An object around a schema that everything passes, in the format of OpenAPI. -/
def Json.labelled : Json :=
  .obj [("schemaFormat", .str "application/vnd.oai.openapi;version=3.0.0"), ("schema", .bool true)]

/-- Two messages with such payloads. -/
def Json.misdeclared : Json :=
  .obj [("asyncapi", .str "3.0.0"), ("info", .obj [("title", .str ""), ("version", .str "")]),
    ("components", .obj [("messages", .obj [("shut", .obj [("payload", .obj numbered)]),
      ("open", .obj [("payload", labelled)])])])]

/-- The first payload is the object around the schema, the second the schema. -/
def Document.misdeclared : Document :=
  ⟨⟨3, 0, 0⟩, .misdeclared,
    [⟨"shut", "shut", none, Version.defaultFormat ⟨3, 0, 0⟩, some (.obj Json.numbered)⟩,
      ⟨"open", "open", none, "application/vnd.oai.openapi;version=3.0.0", some (.bool true)⟩]⟩

/-- What is around the schema compiles as a schema, and takes every payload. -/
theorem compileSchema_numbered (document : Json) :
    ∃ c, compileSchema (.obj Json.numbered) document = .ok c ∧
      ∀ payload, c.violations payload = [] := by
  refine compileSchema_silent rfl (.leaf rfl rfl rfl) ⟨_, rfl, by decide +kernel⟩ (fun m hm => ?_)
    document
  have hmem : m ∈ Json.numbered := hm
  rcases List.mem_cons.1 hmem with rfl | hmem
  · exact ⟨rfl, rfl⟩
  · obtain rfl := List.mem_singleton.1 hmem
    exact ⟨rfl, rfl⟩

namespace Parse

theorem misdeclared_accepted :
    (run .bare .default .default .inline (.json .misdeclared)).document = some .misdeclared := by
  have hunchecked : (run .bare .default ⟨false, false, .default⟩ .inline
      (.json .misdeclared)).document = some .misdeclared := rfl
  refine document_with_core hunchecked rfl fun m hm schema hschema => ?_
  rcases List.mem_cons.1 hm with rfl | hm
  · obtain rfl := Option.some.inj hschema
    obtain ⟨c, hc, _⟩ := compileSchema_numbered .misdeclared
    exact ⟨c, hc⟩
  · obtain rfl := List.mem_singleton.1 hm
    obtain rfl := Option.some.inj hschema
    obtain ⟨c, hc, _⟩ := compileSchema_bool true .misdeclared
    exact ⟨c, hc⟩

/-- The text counts, and the number does not. -/
theorem declared_formats_count_misdeclared :
    ∃ numbered labelled, Document.misdeclared.messages = [numbered, labelled] ∧
      Rules.Exposes .default (Version.defaultFormat ⟨3, 0, 0⟩) (.obj Json.numbered) numbered ∧
      Rules.Honors .default ⟨3, 0, 0⟩ (.obj [("payload", Json.labelled)]) labelled := by
  obtain ⟨ms, hms, hall⟩ := declared_formats_count misdeclared_accepted rfl
  have hmessages : ms = [("shut", .obj [("payload", .obj Json.numbered)]),
      ("open", .obj [("payload", Json.labelled)])] := hms.eq_messages
  rw [hmessages] at hall
  obtain ⟨⟨_, _, hnumbered⟩, hrest⟩ := List.forall₂_cons.1 hall
  obtain ⟨⟨_, hlabelled, _⟩, _⟩ := List.forall₂_cons.1 hrest
  refine ⟨_, _, rfl, hnumbered (.int 42) (.bool false) _ (.inside rfl rfl rfl rfl) ?_ rfl,
    hlabelled.2 fun format schema hdeclares => ?_⟩
  · intro id hid
    cases hid
  · cases hdeclares with
    | beside major => cases major
    | inside _ member named =>
      obtain rfl := Option.some.inj member
      exact ⟨_, (Option.some.inj named).symm⟩

/-- A document is accepted although a message declares a number as its format. The schema in that
format refuses everything, and the message takes every payload. -/
theorem declared_format_ignored :
    (run .bare .default .default .inline (.json .misdeclared)).document = some .misdeclared ∧
      ∃ m ∈ Document.misdeclared.messages, m.payload = some (.obj Json.numbered) ∧
        Rules.HasMessage .misdeclared m.key (.obj [("payload", .obj Json.numbered)]) ∧
        Rules.Declares ⟨3, 0, 0⟩ (.obj [("payload", .obj Json.numbered)]) (.int 42) (.bool false) ∧
        ¬ Rules.Honors .default ⟨3, 0, 0⟩ (.obj [("payload", .obj Json.numbered)]) m ∧
        ∀ payload, Document.misdeclared.validate m.key payload = .ok () := by
  have hdeclares : Rules.Declares ⟨3, 0, 0⟩ (.obj [("payload", .obj Json.numbered)]) (.int 42)
      (.bool false) := .inside rfl rfl rfl rfl
  refine ⟨misdeclared_accepted, _, List.mem_cons_self, rfl, ⟨_, _, rfl, rfl, List.mem_cons_self⟩,
    hdeclares, fun h => ?_, fun payload => ?_⟩
  · obtain ⟨id, hid, _⟩ := h.declared _ _ hdeclares
    cases hid
  · obtain ⟨c, hc, haccepts⟩ := compileSchema_numbered .misdeclared
    rw [Document.validate_of_find? rfl]
    exact Document.check_accepted _ hc (haccepts payload)

end Parse
end MessageContract
