import MessageContract.Proofs.DistinctNames
import MessageContract.Proofs.WellFormed

/-!
# The messages of a document

An accepted document has one message for each declaration under `components.messages`, in their
order (`Parse.messages_represent`). Inlining keeps that order, so it is the order of the raw
document wherever no reference stands on the way. Keys are distinct, and so are texts under
`messageId`; but a message of 2.x without one has its key as its id, which can be the `messageId` of
another message, and that is the only way to share an id (`Parse.ids_eq_iff`).
-/

namespace MessageContract

namespace Rules

/-! ## Declarations -/

/-- The messages that a document declares; there are none without `components.messages`. -/
inductive Lists (doc : Json) : Members → Prop
  | listed {components : Json} {ms : Members} (found : doc.get? "components" = some components)
      (messages : components.get? "messages" = some (.obj ms)) : Lists doc ms
  | unlisted (none : ∀ components, doc.get? "components" = some components →
      components.get? "messages" = none) : Lists doc []

/-- A declared message has a text under `messageId` that counts: it does in 2.x. -/
def HasId (v : Version) (message : Json) (id : String) : Prop :=
  v.isV2 = true ∧ message.get? "messageId" = some (.str id)

/-- What a message is of the declaration that it stands for. -/
structure Represents (v : Version) (declaration : String × Json) (m : Message) : Prop where
  object : ∃ ms, declaration.2 = .obj ms
  key : m.key = declaration.1
  /-- Its id is its `messageId` in 2.x, if it has one, and its key otherwise. -/
  id : HasId v declaration.2 m.id ∨ (∀ id, ¬ HasId v declaration.2 id) ∧ m.id = m.key
  name : ∀ name, m.name = some name ↔ declaration.2.get? "name" = some (.str name)
  payload : m.payload = none ↔ declaration.2.get? "payload" = none

variable {doc : Json} {v : Version} {formats : Registry} {checked : Bool}

theorem lists_messages (h : components doc = []) : Lists doc (messages doc) := by
  rcases components_eq_nil_iff.1 h with hnone | ⟨cs, hcs, hnone | ⟨ms, hms⟩⟩
  · have hmessages : messages doc = [] := by
      rw [messages, hnone]
      rfl
    rw [hmessages]
    refine .unlisted fun c hc => ?_
    rw [hnone] at hc
    cases hc
  · have hmessages : messages doc = [] := by
      rw [messages, hcs]
      simp [Json.get?, hnone]
    rw [hmessages]
    refine .unlisted fun c hc => ?_
    obtain rfl := Option.some.inj (hcs.symm.trans hc)
    exact hnone
  · have hmessages : messages doc = ms := by
      rw [messages, hcs]
      simp [Json.get?, hms, Json.asMembers?]
    rw [hmessages]
    exact .listed hcs hms

theorem Lists.eq_messages {ms : Members} (h : Lists doc ms) : ms = messages doc := by
  unfold messages
  cases h with
  | listed found messages => simp [found, messages, Json.asMembers?]
  | unlisted none =>
    cases hc : doc.get? "components" with
    | none => rfl
    | some components => simp [none components hc]

theorem Lists.nodup {ms : Members} (h : Lists doc ms) (hdoc : doc.HasDistinctNames) :
    (ms.map (·.1)).Nodup := by
  cases h with
  | listed found messages => exact ((hdoc.get? found).get? messages).nodup
  | unlisted => exact List.nodup_nil

theorem asString?_iff {x : Option Json} {text : String} :
    x.bind Json.asString? = some text ↔ x = some (.str text) := by
  cases x with
  | none => simp
  | some v => cases v <;> simp [Json.asString?]

theorem hasId_iff {message : Json} {id : String} :
    HasId v message id ↔ v.isV2 = true ∧ messageId? message = some id := by
  rw [HasId, messageId?, asString?_iff]

/-! ## Building -/

/-- If all declarations are objects and nothing is wrong with them, the messages are built one by
one. -/
theorem forall₂_build {ms : Members} (hobj : ∀ n ∈ ms, ∃ message, n.2 = .obj message)
    (h : (build doc formats checked v ms).2 = []) :
    List.Forall₂ (fun n m => ∃ message, n.2 = .obj message ∧
      buildMessage doc formats checked v n.1 message = .ok m) ms
      (build doc formats checked v ms).1 := by
  induction ms with
  | nil => exact List.Forall₂.nil
  | cons n ms ih =>
    obtain ⟨key, value⟩ := n
    obtain ⟨message, rfl⟩ : ∃ message, value = .obj message := hobj _ List.mem_cons_self
    rw [build_obj] at h ⊢
    split at h
    · next m hm =>
      exact List.Forall₂.cons ⟨message, rfl, hm⟩
        (ih (fun n hn => hobj n (List.mem_cons_of_mem _ hn)) h)
    · cases h

theorem name_of_buildMessage {key : String} {message : Members} {m : Message}
    (h : buildMessage doc formats checked v key message = .ok m) :
    m.name = (message.get? "name").bind Json.asString? := by
  unfold buildMessage at h
  obtain ⟨_, -, rfl⟩ := map_eq_ok h
  rfl

theorem declared_payload_eq_none {key : String} {message : Members} :
    (declared v key message).payload = none ↔ Members.get? message "payload" = none := by
  unfold declared
  dsimp only
  split
  · split
    · next hmulti =>
      obtain ⟨payload, hpayload, _⟩ := Option.bind_eq_some_iff.1 hmulti
      simp [hpayload]
    · rfl
  · rfl

theorem represents_of_buildMessage {n : String × Json} {message : Members} {m : Message}
    (hn : n.2 = .obj message)
    (h : buildMessage doc formats checked v n.1 message = .ok m) : Represents v n m := by
  obtain ⟨hkey, hid, _, hpayload⟩ := buildMessage_ok h
  refine ⟨⟨message, hn⟩, hkey, ?id, fun name => ?name, ?payload⟩
  case id =>
    simp only [hasId_iff, hn]
    rw [hid, hkey, idOf]
    cases hv : v.isV2 with
    | false => simp
    | true =>
      cases hmessage : messageId? (.obj message) with
      | none => simp
      | some id => simp
  case name => rw [name_of_buildMessage h, asString?_iff, hn, Json.get?]
  case payload =>
    have hnone_iff : (declared v n.1 message).payload = none ↔
        Members.get? message "payload" = none := declared_payload_eq_none
    rw [hn, Json.get?, ← hnone_iff]
    rcases hpayload with ⟨hnone, hm⟩ | ⟨raw, f, schema, hraw, _, _, hm, _⟩
    · simp [hnone, hm]
    · simp [hraw, hm]

end Rules

namespace Sources

/-- If no reference stands on the way to the messages of the raw document, what comes out lists the
same keys in the same order. -/
theorem exists_lists_raw {s : Sources} {fuel : Nat} {stack : List Target} {base : Location}
    {raw doc : Json} (h : s.Inlines fuel stack base raw doc) {ms : Members}
    (hms : Rules.Lists doc ms) (hobj : ∃ rs, raw = .obj rs) (hraw : raw.reference? = none)
    (hcomponents : ∀ c, raw.get? "components" = some c → c.reference? = none ∧
      ∀ m, c.get? "messages" = some m → m.reference? = none) :
    ∃ rms, Rules.Lists raw rms ∧ ms.map (·.1) = rms.map (·.1) := by
  obtain ⟨rs, rfl⟩ := hobj
  obtain ⟨ns, rfl, hall⟩ := inlines_obj hraw h
  cases hms with
  | listed found messages =>
    obtain ⟨c, hc, hin⟩ := forall₂_get?_right hall found
    obtain ⟨hplain, hmessages⟩ := hcomponents c hc
    rename_i y
    obtain ⟨ys, rfl⟩ : ∃ ys, y = .obj ys := by
      cases y with
      | obj ys => exact ⟨ys, rfl⟩
      | _ => cases messages
    obtain ⟨cs, rfl, hall'⟩ := hin.exists_members hplain
    obtain ⟨m, hm, hinm⟩ := forall₂_get?_right hall' messages
    obtain ⟨rms, rfl, hnames⟩ := hinm.exists_members (hmessages m hm)
    exact ⟨rms, .listed hc hm, Members.names_eq hnames⟩
  | unlisted none =>
    refine ⟨[], .unlisted fun c hc => ?_, rfl⟩
    obtain ⟨y, hy, hin⟩ := forall₂_get? hall hc
    obtain ⟨hplain, -⟩ := hcomponents c hc
    cases c with
    | obj cs =>
      obtain ⟨ys, rfl, hall'⟩ := inlines_obj hplain hin
      cases hm : Members.get? cs "messages" with
      | none => exact hm
      | some m =>
        obtain ⟨x, hx, _⟩ := forall₂_get? hall' hm
        have hnone := none _ hy
        rw [Json.get?, hx] at hnone
        cases hnone
    | _ => rfl

end Sources

namespace Parse

variable {w : World} {settings : FetchSettings} {options : ParseOptions} {location : Location}
  {input : Input} {raw : Json} {d : Document}

/-- The messages of an accepted document are built from its declarations, one by one. -/
theorem Accepted.forall₂_built (h : Accepted w settings options location raw d)
    (hcore : options.core = true) :
    List.Forall₂ (fun n m => ∃ message, n.2 = .obj message ∧
      Rules.buildMessage d.json options.formats true d.version n.1 message = .ok m)
      (Rules.messages d.json) d.messages := by
  obtain ⟨_, _, _, hshape, _⟩ := Rules.core_eq_nil_iff.1 (h.core hcore)
  have hextract := h.messages
  rw [Rules.extract, hcore] at hextract
  have hobj : ∀ n ∈ Rules.messages d.json, ∃ message, n.2 = .obj message := by
    intro n hn
    have hnil := hshape n.1 n.2 (Rules.mem_messages_iff.1 hn)
    obtain ⟨message, hmessage, _⟩ := Rules.messageShape_eq_nil_iff.1 hnil
    exact ⟨message, hmessage⟩
  have hbuild := Rules.forall₂_build hobj (congrArg Prod.snd hextract)
  rw [hextract] at hbuild
  exact hbuild

theorem Accepted.forall₂_represents (h : Accepted w settings options location raw d)
    (hcore : options.core = true) :
    List.Forall₂ (Rules.Represents d.version) (Rules.messages d.json) d.messages :=
  (h.forall₂_built hcore).imp fun _ _ ⟨_, hn, hm⟩ => Rules.represents_of_buildMessage hn hm

theorem Accepted.lists_messages (h : Accepted w settings options location raw d)
    (hcore : options.core = true) : Rules.Lists d.json (Rules.messages d.json) := by
  obtain ⟨_, _, hcomponents, _⟩ := Rules.core_eq_nil_iff.1 (h.core hcore)
  exact Rules.lists_messages hcomponents

theorem exists_members_of_root (h : root input = .ok raw) : ∃ ms, raw = .obj ms := by
  unfold root at h
  split at h
  · cases h
  · next v _ =>
    split at h
    · obtain rfl := Except.ok.inj h
      cases v with
      | obj ms => exact ⟨ms, rfl⟩
      | _ => contradiction
    · cases h

theorem keys_eq {v : Version} {ms : Members} {messages : List Message}
    (h : List.Forall₂ (Rules.Represents v) ms messages) :
    messages.map (·.key) = ms.map (·.1) := by
  induction h with
  | nil => rfl
  | cons hnm _ ih => rw [List.map_cons, List.map_cons, ih, hnm.key]

/-- No message is lost, repeated or moved: an accepted document has one message for each member of
`components.messages`, with its name as key, in its place. In the raw document the members stand in
the same order, unless a reference stands on the way to them. -/
theorem messages_represent
    (hd : (run w settings options location input).document = some d)
    (hcore : options.core = true) :
    ∃ ms, Rules.Lists d.json ms ∧ List.Forall₂ (Rules.Represents d.version) ms d.messages ∧
      d.messages.map (·.key) = ms.map (·.1) ∧
      ((∀ v, input = .json v → v.HasDistinctNames) → (d.messages.map (·.key)).Nodup) ∧
      ∀ raw, root input = .ok raw → raw.reference? = none →
        (∀ c, raw.get? "components" = some c → c.reference? = none ∧
          ∀ m, c.get? "messages" = some m → m.reference? = none) →
        ∃ rms, Rules.Lists raw rms ∧ d.messages.map (·.key) = rms.map (·.1) := by
  obtain ⟨raw, hraw, haccepted⟩ := accepted_of_document hd
  have hrepresents := haccepted.forall₂_represents hcore
  have hkeys := keys_eq hrepresents
  have hlists := haccepted.lists_messages hcore
  refine ⟨_, hlists, hrepresents, hkeys, fun hinput => ?_, fun raw' hraw' hplain hway => ?_⟩
  · rw [hkeys]
    exact hlists.nodup (haccepted.hasDistinctNames (root_hasDistinctNames hinput hraw))
  · obtain rfl := Except.ok.inj (hraw.symm.trans hraw')
    have hin := Sources.inlines_root haccepted.inlined
    rw [haccepted.json] at hlists
    rw [hkeys, haccepted.json]
    exact Sources.exists_lists_raw hin hlists (exists_members_of_root hraw) hplain hway

end Parse

/-! ## Ids -/

namespace Rules

/-- A message without a text under `messageId` has for its key what another message has there. -/
def Borrows (doc : Json) (m other : Message) : Prop :=
  ∃ message message', HasMessage doc m.key message ∧ HasMessage doc other.key message' ∧
    (∀ id, message.get? "messageId" ≠ some (.str id)) ∧
    message'.get? "messageId" = some (.str m.key)

variable {doc : Json} {v : Version}

/-- Declarations with different keys that have no `messageId` in common. -/
def Apart (v : Version) (n n' : String × Json) : Prop :=
  n.1 ≠ n'.1 ∧ ∀ id, ¬ (HasId v n.2 id ∧ HasId v n'.2 id)

theorem pairwise_apart {ms : Members} (hkeys : (ms.map (·.1)).Nodup)
    (hids : v.isV2 = true → repeatedIds [] ms = []) : ms.Pairwise (Apart v) := by
  have hdistinct : ms.Pairwise fun n n' => ∀ id, ¬ (HasId v n.2 id ∧ HasId v n'.2 id) := by
    by_cases hv : v.isV2 = true
    · have hnodup := (repeatedIds_eq_nil_iff.1 (hids hv)).1
      rw [List.Nodup, List.pairwise_filterMap] at hnodup
      refine hnodup.imp fun {n n'} h id hboth => ?_
      exact h id (hasId_iff.1 hboth.1).2 id (hasId_iff.1 hboth.2).2 rfl
    · exact List.pairwise_of_forall fun n n' id hboth => hv hboth.1.1
  exact (List.pairwise_map.1 hkeys).and hdistinct

/-- A message that stands for a declaration of the document. -/
def Stands (doc : Json) (v : Version) (n : String × Json) (m : Message) : Prop :=
  n ∈ messages doc ∧ Represents v n m

/-- Where keys are distinct a message is declared once. -/
theorem Stands.eq_of_hasMessage (hkeys : ((messages doc).map (·.1)).Nodup) {n : String × Json}
    {m : Message} (h : Stands doc v n m) {message : Json} (hm : HasMessage doc m.key message) :
    message = n.2 := by
  have hmem := mem_messages_iff.2 hm
  have hsame := List.inj_on_of_nodup_map hkeys hmem h.1 h.2.key
  exact congrArg Prod.snd hsame

theorem Stands.hasMessage {n : String × Json} {m : Message} (h : Stands doc v n m) :
    HasMessage doc m.key n.2 := by
  rw [h.2.key]
  exact mem_messages_iff.1 h.1

/-- One of two messages borrows from the other if it has no id of its own, and the other has one. -/
theorem borrows_iff (hkeys : ((messages doc).map (·.1)).Nodup) {n n' : String × Json}
    {m m' : Message} (h : Stands doc v n m) (h' : Stands doc v n' m') :
    v.isV2 = true ∧ Borrows doc m m' ↔ (∀ id, ¬ HasId v n.2 id) ∧ HasId v n'.2 m.key := by
  constructor
  · rintro ⟨hv, message, message', hm, hm', hnone, hsome⟩
    rw [h.eq_of_hasMessage hkeys hm] at hnone
    rw [h'.eq_of_hasMessage hkeys hm'] at hsome
    exact ⟨fun id hid => hnone id hid.2, hv, hsome⟩
  · rintro ⟨hnone, hv, hsome⟩
    exact ⟨hv, n.2, n'.2, h.hasMessage, h'.hasMessage, fun id hid => hnone id ⟨hv, hid⟩, hsome⟩

theorem HasId.iff_eq {message : Json} {id id' : String} (h : HasId v message id) :
    HasId v message id' ↔ id = id' := by
  constructor
  · intro h'
    exact Json.str.inj (Option.some.inj (h.2.symm.trans h'.2))
  · rintro rfl
    exact h

/-- Messages that stand for declarations apart share an id only if one borrows it. -/
theorem id_eq_iff (hkeys : ((messages doc).map (·.1)).Nodup) {n n' : String × Json}
    {m m' : Message} (h : Stands doc v n m) (h' : Stands doc v n' m') (hapart : Apart v n n') :
    m.key ≠ m'.key ∧
      (m.id = m'.id ↔ v.isV2 = true ∧ (Borrows doc m m' ∨ Borrows doc m' m)) := by
  have hne : m.key ≠ m'.key := by
    rw [h.2.key, h'.2.key]
    exact hapart.1
  refine ⟨hne, ?_⟩
  rw [and_or_left, borrows_iff hkeys h h', borrows_iff hkeys h' h]
  rcases h.2.id with hid | ⟨hnone, hid⟩ <;> rcases h'.2.id with hid' | ⟨hnone', hid'⟩
  · -- the rules keep texts under `messageId` apart
    refine iff_of_false (fun heq => hapart.2 m.id ⟨hid, heq ▸ hid'⟩) ?_
    rintro (⟨hnone, _⟩ | ⟨hnone', _⟩)
    · exact hnone _ hid
    · exact hnone' _ hid'
  · rw [hid', hid.iff_eq, or_iff_right fun hb => hb.1 _ hid]
    exact ⟨fun heq => ⟨hnone', heq⟩, And.right⟩
  · rw [hid, hid'.iff_eq, or_iff_left fun hb => hb.1 _ hid', eq_comm]
    exact ⟨fun heq => ⟨hnone, heq⟩, And.right⟩
  · -- both ids are keys
    rw [hid, hid']
    refine iff_of_false hne ?_
    rintro (⟨_, hsome⟩ | ⟨_, hsome⟩)
    · exact hnone' _ hsome
    · exact hnone _ hsome

end Rules

theorem pairwise_of_forall₂ {α β : Type} {R : α → β → Prop} {S : α → α → Prop}
    {T : β → β → Prop} {xs : List α} {ys : List β} (h : List.Forall₂ R xs ys)
    (hxs : xs.Pairwise S) (himp : ∀ x x' y y', R x y → R x' y' → S x x' → T y y') :
    ys.Pairwise T := by
  induction h with
  | nil => exact List.Pairwise.nil
  | cons hxy hall ih =>
    obtain ⟨hx, hxs⟩ := List.pairwise_cons.1 hxs
    refine List.pairwise_cons.2 ⟨fun y' hy' => ?_, ih hxs⟩
    obtain ⟨x', hx', hxy'⟩ := Sources.forall₂_mem_right hall hy'
    exact himp _ _ _ _ hxy hxy' (hx x' hx')

namespace Parse

/-- Any two messages of an accepted document have different keys. They have the same id exactly if,
in 2.x, one of them has no text under `messageId`, and its key is what the other has there. A text
is read to a tree with distinct names; a tree that is given has them too. -/
theorem ids_eq_iff {w : World} {settings : FetchSettings} {options : ParseOptions}
    {location : Location} {input : Input} {d : Document}
    (hd : (run w settings options location input).document = some d) (hcore : options.core = true)
    (hinput : ∀ v, input = .json v → v.HasDistinctNames) :
    d.messages.Pairwise fun m m' => m.key ≠ m'.key ∧
      (m.id = m'.id ↔
        d.version.isV2 = true ∧ (Rules.Borrows d.json m m' ∨ Rules.Borrows d.json m' m)) := by
  obtain ⟨raw, hraw, haccepted⟩ := accepted_of_document hd
  obtain ⟨_, _, _, _, hids⟩ := Rules.core_eq_nil_iff.1 (haccepted.core hcore)
  have hdistinct := haccepted.hasDistinctNames (root_hasDistinctNames hinput hraw)
  have hkeys := (haccepted.lists_messages hcore).nodup hdistinct
  have hstands : List.Forall₂ (Rules.Stands d.json d.version) (Rules.messages d.json)
      d.messages :=
    Sources.forall₂_imp_of_mem (haccepted.forall₂_represents hcore) fun n hn m hm => ⟨hn, hm⟩
  have hapart := Rules.pairwise_apart hkeys hids
  refine pairwise_of_forall₂ hstands hapart fun n n' m m' h h' hnn' => ?_
  exact Rules.id_eq_iff hkeys h h' hnn'

end Parse

/-! ## A message with the id of another -/

/-- The second message has no `messageId`, and the first has the second one's key there. -/
def Json.borrowed : Json :=
  .obj [("asyncapi", .str "2.6.0"), ("info", .obj [("title", .str ""), ("version", .str "")]),
    ("channels", .obj []), ("components", .obj [("messages", .obj [
      ("placed", .obj [("messageId", .str "order"), ("name", .str "Placed")]),
      ("order", .obj [])])])]

theorem Json.borrowed_hasDistinctNames : Json.borrowed.HasDistinctNames :=
  hasDistinctNames_of_parts (by decide +kernel)

namespace Parse

theorem exists_borrowed :
    ∃ d, (run .bare .default .default .inline (.json .borrowed)).document = some d ∧
      d.messages.map (·.key) = ["placed", "order"] ∧
      d.messages.map (·.id) = ["order", "order"] := by
  have hrun : (run .bare .default .default .inline (.json .borrowed)).document.any (fun d =>
      d.messages.map (·.key) == ["placed", "order"] &&
        d.messages.map (·.id) == ["order", "order"]) = true := by
    decide +kernel
  obtain ⟨d, hd, hall⟩ := (Option.any_eq_true _ _).1 hrun
  obtain ⟨hkeys, hids⟩ := Bool.and_eq_true_iff.1 hall
  exact ⟨d, hd, beq_iff_eq.1 hkeys, beq_iff_eq.1 hids⟩

/-- Both messages are there, in their order. -/
theorem messages_represent_borrowed :
    ∃ d ms rms, (run .bare .default .default .inline (.json .borrowed)).document = some d ∧
      List.Forall₂ (Rules.Represents d.version) ms d.messages ∧ Rules.Lists .borrowed rms ∧
      d.messages.map (·.key) = rms.map (·.1) ∧ (d.messages.map (·.key)).Nodup := by
  obtain ⟨d, hd, _, _⟩ := exists_borrowed
  obtain ⟨ms, _, hrepresents, _, hnodup, horder⟩ := messages_represent hd rfl
  obtain ⟨rms, hrms, hkeys⟩ := horder .borrowed rfl rfl fun c hc => by
    obtain rfl := Option.some.inj hc
    refine ⟨rfl, fun m hm => ?_⟩
    obtain rfl := Option.some.inj hm
    rfl
  refine ⟨d, ms, rms, hd, hrepresents, hrms, hkeys, hnodup fun v hv => ?_⟩
  rw [← Input.json.inj hv]
  exact Json.borrowed_hasDistinctNames

theorem ids_eq_iff_borrowed :
    ∃ d, (run .bare .default .default .inline (.json .borrowed)).document = some d ∧
      d.messages.Pairwise fun m m' => m.key ≠ m'.key ∧
        (m.id = m'.id ↔ d.version.isV2 = true ∧
          (Rules.Borrows d.json m m' ∨ Rules.Borrows d.json m' m)) := by
  obtain ⟨d, hd, _, _⟩ := exists_borrowed
  refine ⟨d, hd, ids_eq_iff hd rfl fun v hv => ?_⟩
  rw [← Input.json.inj hv]
  exact Json.borrowed_hasDistinctNames

/-- The two messages share an id. -/
theorem ids_repeat :
    ∃ d, (run .bare .default .default .inline (.json .borrowed)).document = some d ∧
      ¬ d.messages.Pairwise fun m m' => m.id ≠ m'.id := by
  obtain ⟨d, hd, _, hids⟩ := exists_borrowed
  refine ⟨d, hd, fun h => ?_⟩
  have hnodup : (d.messages.map (·.id)).Nodup := List.pairwise_map.2 h
  rw [hids] at hnodup
  exact absurd hnodup (by decide)

end Parse
end MessageContract
