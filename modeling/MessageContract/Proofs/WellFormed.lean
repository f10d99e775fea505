import MessageContract.Proofs.Acceptance
import MessageContract.Proofs.Schema.Compilation

/-!
# Well-formed documents

What a document of a version has to look like, said member by member (`Rules.WellFormed`). Each rule
finds nothing exactly if its part of that holds, and a message is built exactly if its payload, in
the format that counts for it (`Rules.Payload`), can be read with a registry (`Rules.IsReadable`).
Together they find nothing exactly in well-formed documents (`Rules.silent_iff_wellFormed`).
-/

namespace MessageContract

theorem Version.isV2_eq {v : Version} (h : v ∈ supported) : v.isV2 = !v.isV3 := by
  revert v
  decide

/-- The format of a registry by which an identifier is read: the first that covers it. -/
def Registry.Reads (r : Registry) (id : String) (f : SchemaFormat) : Prop :=
  ∃ before after, r = before ++ f :: after ∧ f.supports (SchemaFormat.normalizeId id) = true ∧
    ∀ g ∈ before, g.supports (SchemaFormat.normalizeId id) = false

theorem Registry.find?_eq_some_iff {r : Registry} {id : String} {f : SchemaFormat} :
    r.find? id = some f ↔ r.Reads id f := by
  rw [find?, List.find?_eq_some_iff_append]
  constructor
  · rintro ⟨hf, before, after, heq, hbefore⟩
    exact ⟨before, after, heq, hf, fun g hg => by simpa using hbefore g hg⟩
  · rintro ⟨before, after, heq, hf, hbefore⟩
    exact ⟨hf, before, after, heq, fun g hg => by simp [hbefore g hg]⟩

namespace Rules

/-! ## What is asked of a document -/

/-- The document declares a message under `components.messages`. -/
def HasMessage (doc : Json) (key : String) (message : Json) : Prop :=
  ∃ components messages, doc.get? "components" = some (.obj components) ∧
    Members.get? components "messages" = some (.obj messages) ∧ (key, message) ∈ messages

/-- The value is an object that carries a schema and the format of it. -/
def IsMultiFormat (payload : Json) (format : String) (schema : Json) : Prop :=
  payload.get? "schemaFormat" = some (.str format) ∧ payload.get? "schema" = some schema

/-- The payload of a message: the format that counts for it, declared or that of the version, and
the schema written in it. -/
inductive Payload (v : Version) (message : Members) : String → Json → Prop
  | carried {payload schema : Json} {format : String} (major : v.isV3 = true)
      (member : message.get? "payload" = some payload)
      (multi : IsMultiFormat payload format schema) : Payload v message format schema
  | bare {payload : Json} (major : v.isV3 = true) (member : message.get? "payload" = some payload)
      (single : ∀ format schema, ¬ IsMultiFormat payload format schema) :
      Payload v message v.defaultFormat payload
  | declared {payload : Json} {format : String} (major : v.isV2 = true)
      (member : message.get? "payload" = some payload)
      (named : message.get? "schemaFormat" = some (.str format)) : Payload v message format payload
  | undeclared {payload : Json} (major : v.isV2 = true)
      (member : message.get? "payload" = some payload)
      (unnamed : ∀ format, message.get? "schemaFormat" ≠ some (.str format)) :
      Payload v message v.defaultFormat payload

/-- A schema in a format is converted by the registry to a schema that compiles against the
document. -/
def IsReadable (doc : Json) (formats : Registry) (format : String) (raw : Json) : Prop :=
  ∃ f schema c, formats.Reads format f ∧ f.convert raw = .ok schema ∧
    compileSchema schema doc = .ok c

/-- What the core rules ask of a document. -/
structure WellFormed (doc : Json) (v : Version) (formats : Registry) : Prop where
  /-- `info` is an object with the texts `title` and `version`. -/
  info : ∃ ms title version, doc.get? "info" = some (.obj ms) ∧
    Members.get? ms "title" = some (.str title) ∧ Members.get? ms "version" = some (.str version)
  /-- `channels` is an object, or absent in 3.x. -/
  channels : (∃ ms, doc.get? "channels" = some (.obj ms)) ∨
    doc.get? "channels" = none ∧ v.isV3 = true
  /-- `components` is absent or an object, and so is `messages` in it. -/
  components : doc.get? "components" = none ∨
    ∃ ms, doc.get? "components" = some (.obj ms) ∧
      (Members.get? ms "messages" = none ∨
        ∃ messages, Members.get? ms "messages" = some (.obj messages))
  /-- Messages are objects. -/
  messages : ∀ key value, HasMessage doc key value → ∃ message, value = .obj message
  /-- Payloads are objects or booleans. -/
  payloads : ∀ key message, HasMessage doc key (.obj message) →
    ∀ payload, Members.get? message "payload" = some payload →
      (∃ ms, payload = .obj ms) ∨ ∃ b, payload = .bool b
  /-- In 2.x no two messages have the same text as `messageId`. -/
  ids : v.isV2 = true → ((Rules.messages doc).filterMap fun m => messageId? m.2).Nodup
  /-- Payloads are converted to schemas that compile. -/
  schemas : ∀ key message, HasMessage doc key (.obj message) →
    ∀ format raw, Payload v message format raw → IsReadable doc formats format raw

variable {doc : Json} {v : Version} {formats : Registry}

/-! ## The structural rules -/

theorem mem_messages_iff {key : String} {message : Json} :
    (key, message) ∈ messages doc ↔ HasMessage doc key message := by
  unfold messages HasMessage
  cases doc.get? "components" with
  | none => simp
  | some components =>
    cases components with
    | obj cs =>
      simp only [Option.bind_some, Json.get?, Option.some.injEq, Json.obj.injEq, exists_and_left,
        exists_eq_left']
      cases Members.get? cs "messages" with
      | none => simp
      | some messages => cases messages <;> simp [Json.asMembers?]
    | _ => simp [Json.get?]

theorem infoField_eq_nil_iff {ms : Members} {field : String} :
    infoField ms field = [] ↔ ∃ text, Members.get? ms field = some (.str text) := by
  unfold infoField
  split
  · next text h => simp [h]
  · next hother => exact iff_of_false (by simp) fun ⟨text, h⟩ => hother text h

theorem info_eq_nil_iff : Rules.info doc = [] ↔ ∃ ms title version,
    doc.get? "info" = some (.obj ms) ∧ Members.get? ms "title" = some (.str title) ∧
      Members.get? ms "version" = some (.str version) := by
  unfold Rules.info
  split
  · next ms h => simp [h, infoField_eq_nil_iff]
  · next hother h =>
    refine iff_of_false (by simp) ?_
    rintro ⟨ms, _, _, hms, _⟩
    exact hother ms (Option.some.inj (h.symm.trans hms))
  · next h => simp [h]

theorem channels_eq_nil_iff (hv : v ∈ Version.supported) : Rules.channels doc v = [] ↔
    (∃ ms, doc.get? "channels" = some (.obj ms)) ∨
      doc.get? "channels" = none ∧ v.isV3 = true := by
  unfold Rules.channels
  split
  · next ms h => simp [h]
  · next hother h =>
    refine iff_of_false (by simp) ?_
    rintro (⟨ms, hms⟩ | ⟨hnone, _⟩)
    · exact hother ms (Option.some.inj (h.symm.trans hms))
    · cases h.symm.trans hnone
  · next h => simp [h, Version.isV2_eq hv]

theorem components_eq_nil_iff : Rules.components doc = [] ↔ doc.get? "components" = none ∨
    ∃ ms, doc.get? "components" = some (.obj ms) ∧
      (Members.get? ms "messages" = none ∨
        ∃ messages, Members.get? ms "messages" = some (.obj messages)) := by
  unfold Rules.components
  split
  · next h => simp [h]
  · next ms h =>
    simp only [h, reduceCtorEq, Option.some.injEq, Json.obj.injEq, exists_eq_left', false_or]
    split
    · next hnone => simp [hnone]
    · next messages hmessages => simp [hmessages]
    · next hother hsome =>
      refine iff_of_false (by simp) ?_
      rintro (hnone | ⟨messages, hmessages⟩)
      · cases hsome.symm.trans hnone
      · exact hother messages (Option.some.inj (hsome.symm.trans hmessages))
  · next hother h =>
    refine iff_of_false (by simp) ?_
    rintro (hnone | ⟨ms, hms, _⟩)
    · cases h.symm.trans hnone
    · exact hother ms (Option.some.inj (h.symm.trans hms))

theorem messageShape_eq_nil_iff {key : String} {value : Json} : messageShape key value = [] ↔
    ∃ message, value = .obj message ∧ ∀ payload, Members.get? message "payload" = some payload →
      (∃ ms, payload = .obj ms) ∨ ∃ b, payload = .bool b := by
  cases value with
  | obj message =>
    simp only [messageShape, Json.obj.injEq, exists_eq_left']
    cases Members.get? message "payload" with
    | none => simp
    | some payload => cases payload <;> simp [Json.isObject, Json.isBool]
  | _ => simp [messageShape]

/-- Among messages with others before them no `messageId` is repeated exactly if theirs are pairwise
distinct and none of them was used earlier. -/
theorem repeatedIds_eq_nil_iff {earlier : List (String × String)} {ms : Members} :
    repeatedIds earlier ms = [] ↔
      (ms.filterMap fun m => messageId? m.2).Nodup ∧
        ∀ id ∈ ms.filterMap fun m => messageId? m.2, earlier.lookup id = none := by
  induction ms generalizing earlier with
  | nil => simp [repeatedIds]
  | cons m ms ih =>
    obtain ⟨key, message⟩ := m
    rw [repeatedIds, List.filterMap_cons]
    cases messageId? message with
    | none => exact ih
    | some id =>
      dsimp only
      cases hlookup : earlier.lookup id with
      | some other =>
        refine iff_of_false (by simp) fun h => ?_
        cases hlookup.symm.trans (h.2 id List.mem_cons_self)
      | none =>
        have hfresh : ∀ id', ((id, key) :: earlier).lookup id' = none ↔
            id' ≠ id ∧ earlier.lookup id' = none := by
          intro id'
          rw [List.lookup_cons]
          cases heq : id' == id with
          | true => simp [beq_iff_eq.1 heq]
          | false => simp [ne_of_beq_false heq]
        simp only [ih, List.nodup_cons, List.forall_mem_cons, hlookup, hfresh]
        constructor
        · rintro ⟨hnodup, hrest⟩
          exact ⟨⟨fun hmem => (hrest id hmem).1 rfl, hnodup⟩, trivial, fun id' h => (hrest id' h).2⟩
        · rintro ⟨⟨hid, hnodup⟩, -, hrest⟩
          exact ⟨hnodup, fun id' h => ⟨fun heq => hid (heq ▸ h), hrest id' h⟩⟩

theorem core_eq_nil_iff : core doc v = [] ↔
    Rules.info doc = [] ∧ Rules.channels doc v = [] ∧ Rules.components doc = [] ∧
      (∀ key value, HasMessage doc key value → messageShape key value = []) ∧
      (v.isV2 = true → repeatedIds [] (messages doc) = []) := by
  simp only [core, List.append_eq_nil_iff, List.flatMap_eq_nil_iff, Prod.forall, mem_messages_iff,
    ite_eq_right_iff, and_assoc]

/-! ## Building messages -/

theorem multiFormat?_eq_some_iff {payload schema : Json} {format : String} :
    multiFormat? payload = some (format, schema) ↔ IsMultiFormat payload format schema := by
  unfold multiFormat? IsMultiFormat
  split
  · next h h' => simp [h, h']
  · next hother => exact iff_of_false (by simp) fun ⟨h, h'⟩ => hother _ _ h h'

theorem multiFormat?_eq_none_iff {payload : Json} :
    multiFormat? payload = none ↔ ∀ format schema, ¬ IsMultiFormat payload format schema := by
  simp only [← multiFormat?_eq_some_iff, Option.eq_none_iff_forall_ne_some, Prod.forall, ne_eq]

/-- What is read of a message as its payload is its payload. -/
theorem payload_iff (hv : v ∈ Version.supported) (key : String) {format : String}
    {message : Members} {raw : Json} : Payload v message format raw ↔
      (declared v key message).payload = some raw ∧
        formatOf v (declared v key message) = format := by
  have hmajor := Version.isV2_eq hv
  constructor
  · intro h
    cases h with
    | @carried payload _ _ major member multi =>
      simp [declared, formatOf, major, member, multiFormat?_eq_some_iff.2 multi]
    | bare major member single =>
      simp [declared, formatOf, major, member, multiFormat?_eq_none_iff.2 single]
    | declared major member named =>
      rw [hmajor, Bool.not_eq_true'] at major
      simp [Rules.declared, formatOf, major, member, named, Json.asString?]
    | undeclared major member unnamed =>
      rw [hmajor, Bool.not_eq_true'] at major
      have hnone : (message.get? "schemaFormat").bind Json.asString? = none := by
        rw [Option.bind_eq_none_iff]
        intro value hvalue
        cases value with
        | str format => exact absurd hvalue (unnamed format)
        | _ => rfl
      simp [Rules.declared, formatOf, major, member, hnone]
  · rintro ⟨hraw, rfl⟩
    cases major : v.isV3 with
    | true =>
      cases member : message.get? "payload" with
      | none => simp [declared, major, member] at hraw
      | some payload =>
        cases hmulti : multiFormat? payload with
        | some carried =>
          obtain ⟨format, schema⟩ := carried
          simp only [declared, formatOf, major, member, Option.bind_some, hmulti, if_true,
            Option.getD_some, Option.some.injEq] at hraw ⊢
          exact hraw ▸ .carried major member (multiFormat?_eq_some_iff.1 hmulti)
        | none =>
          simp only [declared, formatOf, major, member, Option.bind_some, hmulti, if_true,
            Option.getD_none, Option.some.injEq] at hraw ⊢
          exact hraw ▸ .bare major member (multiFormat?_eq_none_iff.1 hmulti)
    | false =>
      have hraw' : message.get? "payload" = some raw := by simpa [declared, major] using hraw
      have hmajor' : v.isV2 = true := by rw [hmajor, major]; rfl
      cases hformat : (message.get? "schemaFormat").bind Json.asString? with
      | some format =>
        obtain ⟨value, hvalue, htext⟩ := Option.bind_eq_some_iff.1 hformat
        have hnamed : message.get? "schemaFormat" = some (.str format) := by
          cases value with
          | str text => rw [hvalue, ← Option.some.inj htext]
          | _ => cases htext
        simpa [declared, formatOf, major, hformat] using Payload.declared hmajor' hraw' hnamed
      | none =>
        have hunnamed : ∀ format, message.get? "schemaFormat" ≠ some (.str format) := by
          intro format h
          rw [h] at hformat
          cases hformat
        simpa [declared, formatOf, major, hformat] using Payload.undeclared hmajor' hraw' hunnamed

/-- A message is built exactly if its payload can be read. -/
theorem exists_buildMessage_iff (hv : v ∈ Version.supported) {key : String} {message : Members} :
    (∃ m, buildMessage doc formats true v key message = .ok m) ↔
      ∀ format raw, Payload v message format raw → IsReadable doc formats format raw := by
  simp only [payload_iff hv key, IsReadable, ← Registry.find?_eq_some_iff]
  unfold buildMessage payload
  dsimp only
  cases (declared v key message).payload with
  | none => simp [Except.map]
  | some raw =>
    simp only [Option.some.injEq, and_imp, forall_eq', convertPayload]
    cases formats.find? (formatOf v (declared v key message)) with
    | none => simp [Except.map]
    | some f =>
      simp only [Option.some.injEq, exists_and_left, exists_eq_left']
      cases f.convert raw with
      | error reason => simp [Except.map]
      | ok schema =>
        simp only [checkPayload, if_true, Except.ok.injEq, exists_eq_left']
        cases compileSchema schema doc <;> simp [Except.map]

theorem build_eq_nil_iff {checked : Bool} {ms : Members} :
    (build doc formats checked v ms).2 = [] ↔ ∀ key message, (key, Json.obj message) ∈ ms →
      ∃ m, buildMessage doc formats checked v key message = .ok m := by
  induction ms with
  | nil => simp [build]
  | cons m ms ih =>
    obtain ⟨key, value⟩ := m
    cases value with
    | obj message =>
      simp only [build, List.mem_cons, Prod.mk.injEq, Json.obj.injEq, or_imp, and_imp,
        forall_and, forall_eq_apply_imp_iff, forall_eq, ← ih]
      cases buildMessage doc formats checked v key message <;> simp
    | _ => simpa [build] using ih

/-! ## Both together -/

/-- Nothing is found in a document of a supported version exactly if it is well-formed. -/
theorem silent_iff_wellFormed (doc : Json) {v : Version} (hv : v ∈ Version.supported)
    (formats : Registry) :
    core doc v = [] ∧ (extract doc formats true v).2 = [] ↔ WellFormed doc v formats := by
  rw [core_eq_nil_iff, extract, build_eq_nil_iff]
  simp only [info_eq_nil_iff, channels_eq_nil_iff hv, components_eq_nil_iff,
    messageShape_eq_nil_iff, repeatedIds_eq_nil_iff, mem_messages_iff, exists_buildMessage_iff hv]
  constructor
  · rintro ⟨⟨hinfo, hchannels, hcomponents, hshapes, hids⟩, hschemas⟩
    refine ⟨hinfo, hchannels, hcomponents, fun key value h => ?_, fun key message h => ?_,
      fun h => (hids h).1, hschemas⟩
    · obtain ⟨message, heq, -⟩ := hshapes key value h
      exact ⟨message, heq⟩
    · obtain ⟨message', heq, hpayload⟩ := hshapes key _ h
      obtain rfl := Json.obj.inj heq
      exact hpayload
  · intro h
    refine ⟨⟨h.info, h.channels, h.components, fun key value hvalue => ?_, fun hmajor => ?_⟩,
      h.schemas⟩
    · obtain ⟨message, rfl⟩ := h.messages key value hvalue
      exact ⟨message, rfl, h.payloads key message hvalue⟩
    · exact ⟨h.ids hmajor, fun id _ => rfl⟩

end Rules

/-- A document with a payload that carries its format, and a message without a payload. -/
def Json.carrier : Json :=
  .obj [("asyncapi", .str "3.0.0"),
    ("info", .obj [("title", .str "t"), ("version", .str "1")]),
    ("components", .obj [("messages", .obj
      [("open", .obj [("payload", .obj
        [("schemaFormat", .str "application/vnd.oai.openapi;version=3.0.0"),
          ("schema", .bool true)])]),
       ("free", .obj [])])])]

theorem Rules.silent_iff_wellFormed_carrier :
    WellFormed .carrier ⟨3, 0, 0⟩ .default ∧ core .carrier ⟨3, 0, 0⟩ = [] := by
  have hcore : core .carrier ⟨3, 0, 0⟩ = [] := List.isEmpty_iff.1 (by decide +kernel)
  have hbuilt : (extract .carrier .default false ⟨3, 0, 0⟩).2 = [] ∧
      ∀ m ∈ (extract .carrier .default false ⟨3, 0, 0⟩).1, ∀ schema, m.payload = some schema →
        ∃ c, compileSchema schema .carrier = .ok c := by
    have hall : ((extract .carrier .default false ⟨3, 0, 0⟩).2.isEmpty &&
        (extract .carrier .default false ⟨3, 0, 0⟩).1.all fun m => m.payload.all Json.isBool) =
          true := by decide +kernel
    obtain ⟨hnil, hbool⟩ := Bool.and_eq_true_iff.1 hall
    refine ⟨List.isEmpty_iff.1 hnil, fun m hm schema hschema => ?_⟩
    have hpayload := List.all_eq_true.1 hbool m hm
    rw [hschema] at hpayload
    cases schema with
    | bool b =>
      obtain ⟨c, hc, -⟩ := compileSchema_bool b .carrier
      exact ⟨c, hc⟩
    | _ => cases hpayload
  have hextract : (extract .carrier .default true ⟨3, 0, 0⟩).2 = [] := by
    rw [extract, build_checked hbuilt.2]
    exact hbuilt.1
  exact ⟨(silent_iff_wellFormed .carrier (by decide) .default).1 ⟨hcore, hextract⟩, hcore⟩

end MessageContract
