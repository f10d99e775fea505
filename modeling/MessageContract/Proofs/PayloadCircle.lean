import MessageContract.Proofs.NativePayload
import MessageContract.Proofs.Schema.ServedCircle

/-!
# Payloads that go in circles

Inlining keeps the edges back of recursive payloads, and nobody looks at whether such an edge leads
to a part of the value or to the same value again. So checking a payload of an accepted document
ends if and only if its raw declaration, with references followed when they are called for, goes in
no circle (`Parse.payload_circular_iff`), and there are accepted documents where it does
(`Parse.payload_circular_loop`).
-/

namespace MessageContract

open Draft7 (Circular Ends Rule)

/-- Beside a document a payload goes in circles as its raw declaration does. -/
structure Served.RecursAs (s : Sources) (document payload : Json) (o : Origin) : Prop where
  circular : ∀ place, Circular (resolve document) Rule.branches (place, dress place payload) ↔
    Circular s.resolve Rule.branches (o.base, o.value)
  /-- Without a circle, the value is handed on only finitely often. -/
  ends : ∀ place, Ends (resolve document) Rule.branches (place, dress place payload) ↔
    ¬ Circular s.resolve Rule.branches (o.base, o.value)
  /-- Without a circle through any keyword, every value has a verdict. -/
  verdict : ¬ Circular s.resolve Rule.inPlace (o.base, o.value) → ∀ place (t : Idiom) v,
    ∃ b, (t.reading (resolve document)).Verdict place (dress place payload) v b

/-- What came out of a schema goes in circles as the schema does. -/
theorem Sources.Serves.recursAs {s : Sources} {t : Idiom} {n : Nat} {p : Point} {out : Json}
    (h : s.Serves t n p out) (hclean : s.inline.findings = []) (hdirect : s.Direct)
    (hfinds : s.FindsAll) : Served.RecursAs s s.inline.value out p.origin where
  circular := h.circular_iff hclean hdirect hfinds Rule.isChoice_branches
  ends place := (Draft7.ends_iff_not_circular Rule.isChoice_branches
    (Served.finite_reaches _ _)).trans
      (not_congr (h.circular_iff hclean hdirect hfinds Rule.isChoice_branches place))
  verdict hcircle place t v := h.exists_verdict hclean hdirect hfinds hcircle t place v

namespace Parse

/-- Checking a payload of an accepted document ends if and only if its raw declaration goes in no
circle. -/
theorem payload_circular_iff {w : World} {settings : FetchSettings} {options : ParseOptions}
    {location : Location} {input : Input} {raw : Json} {d : Document} {m : Message} {schema : Json}
    {t : Idiom} (hd : (run w settings options location input).document = some d)
    (hraw : root input = .ok raw) (hm : m ∈ d.messages) (hschema : m.payload = some schema)
    (hdirect : (w.sources settings raw location).Direct)
    (hway : ∀ v, Rules.OnWay d.version d.json m.key v → v.reference? = none)
    (hschematic : ∀ o, (w.sources settings raw location).Declares d.version m.key o →
      (w.sources settings raw location).Schematic t o) :
    ∃ message x f o, (m.key, .obj message) ∈ Rules.messages d.json ∧
      (Rules.declared d.version m.key message).payload = some x ∧
      options.formats.find? m.schemaFormat = some f ∧ f.convert x = .ok schema ∧
      (w.sources settings raw location).Declares d.version m.key o ∧
      Served.RecursAs (w.sources settings raw location) d.json x o := by
  obtain ⟨raw', hraw', haccepted⟩ := accepted_of_document hd
  obtain rfl := Except.ok.inj (hraw.symm.trans hraw')
  have hfinds := haccepted.findsAll_of_direct hdirect
  obtain ⟨message, p, x, f, hmessage, hx, hdeclares, hp, hf, hconvert⟩ :=
    haccepted.exists_declared_payload
      (fun p out hp hout => hp.arrives_of_plain hfinds (hway out hout)) hm hschema
  obtain ⟨n, hn⟩ := hp.inlines
  have hserves : (w.sources settings raw location).Serves t n p x :=
    ⟨hp.meets, hschematic p.origin hdeclares, hn⟩
  have hrecurs := hserves.recursAs haccepted.inlined hdirect hfinds
  rw [← haccepted.json] at hrecurs
  exact ⟨message, x, f, p.origin, hmessage, hx, hf, hconvert, hdeclares, hrecurs⟩

end Parse

/-! ## A payload that refers to itself from inside -/

namespace Sources

variable {format : String}

theorem chain_reaches {b : Location × Json}
    (h : Draft7.Reaches (chain format).resolve (.inline, Json.toLink) b) :
    b = (.inline, Json.toLink) ∨ b = (.inline, Json.link) := by
  have happlies := h.lift (p := (chain format).Applies) (fun a => Origin.mk a.1 a.2)
    fun _ _ => applies_of_hands Rule.isChoice_inside
  exact (toLink_reaches happlies).imp
    (fun heq => Prod.ext (congrArg Origin.base heq) (congrArg Origin.value heq))
    (fun heq => Prod.ext (congrArg Origin.base heq) (congrArg Origin.value heq))

theorem link_not_hands {b : Location × Json} :
    ¬ Draft7.Hands (chain format).resolve Rule.branches (.inline, Json.link) b := by
  intro h
  obtain ⟨ms, hms, rule, hrule, x, hx, _⟩ := Draft7.hands_plain rfl h
  cases hms
  suffices hall : ∀ rule ∈ Draft7.rules (Members.get? _), rule.branches = [] by
    rw [hall rule hrule] at hx
    cases hx
  simp [Draft7.rules, Members.get?, Draft7.itemRules, Draft7.memberRules, Draft7.listRule,
    Rule.branches]

theorem chain_not_circular :
    ¬ Circular (chain format).resolve Rule.branches (.inline, Json.toLink) := by
  rintro ⟨b, hb, hcircle⟩
  obtain ⟨c, hstep, hrest⟩ := Relation.TransGen.head'_iff.1 hcircle
  rcases chain_reaches hb with rfl | rfl
  · obtain rfl := Option.some.inj (chain_resolve.symm.trans (Draft7.hands_reference rfl hstep))
    rcases Relation.ReflTransGen.cases_head hrest with heq | ⟨_, hnext, _⟩
    · exact absurd (congrArg Prod.snd heq) (by simp [Json.link, Json.toLink])
    · exact link_not_hands hnext
  · exact link_not_hands hstep

end Sources

/-- The document with its references inlined. -/
def Json.chainInlined (format : String) : Json :=
  .obj [("asyncapi", .str "2.6.0"), ("components", .obj
    [("messages", .obj [("m", .obj [("schemaFormat", .str format), ("payload", .link)])]),
      ("schemas", .obj [("link", .obj [("type", .str "object"), ("nullable", .bool true),
        ("properties", .obj [("next", .link)])])])])]

namespace Parse

/-- On the way to the payload there is no reference. -/
theorem chain_onWay {key : String} {v : Json}
    (h : Rules.OnWay ⟨2, 6, 0⟩ (.chainInlined plainFormat) key v) : v.reference? = none := by
  cases h with
  | document => rfl
  | components hc =>
    cases hc
    rfl
  | messages hc hm =>
    cases hc
    cases hm
    rfl
  | message hm =>
    obtain ⟨_, rfl⟩ := Prod.mk.inj (List.mem_singleton.1 hm)
    rfl
  | payload hv _ _ => cases hv
  | format hv _ _ _ => cases hv

/-- A payload that refers to itself from inside goes in no circle. -/
theorem payload_circular_iff_chain :
    ∃ d m message x, (run .bare .default ⟨false, false, [.native]⟩ .inline
        (.json (.chain plainFormat))).document = some d ∧ m ∈ d.messages ∧
      (m.key, .obj message) ∈ Rules.messages d.json ∧
      (Rules.declared d.version m.key message).payload = some x ∧
      ∀ place, Ends (Served.resolve d.json) Rule.branches (place, Served.dress place x) := by
  obtain ⟨d, m, schema, hd, hversion, hm, hschema, _⟩ :=
    exists_chain_payload .native plainFormat (fun _ _ => true) (by decide +kernel)
  have hjson : d.json = .chainInlined plainFormat := by
    obtain ⟨raw, hraw, haccepted⟩ := accepted_of_document hd
    obtain rfl : Json.chain plainFormat = raw := Except.ok.inj hraw
    rw [haccepted.json, World.sources_chain]
    rfl
  have hschematic : ∀ o, (Sources.chain plainFormat).Declares d.version m.key o →
      (Sources.chain plainFormat).Schematic Draft7.idiom o := by
    intro o ho
    rw [hversion] at ho
    rw [Sources.chain_declares ho]
    exact Sources.schematic_toLink (by decide)
  obtain ⟨message, x, _, o, hmessage, hx, _, _, hdeclares, hrecurs⟩ :=
    payload_circular_iff hd rfl hm hschema
      (World.sources_chain _ ▸ Sources.tidy_chain.direct)
      (fun v hv => by
        rw [hversion, hjson] at hv
        exact chain_onWay hv)
      (World.sources_chain _ ▸ hschematic)
  rw [World.sources_chain] at hdeclares hrecurs
  obtain rfl := Sources.chain_declares (hversion ▸ hdeclares)
  exact ⟨d, m, message, x, hd, hm, hmessage, hx,
    fun place => (hrecurs.ends place).2 Sources.chain_not_circular⟩

end Parse

/-! ## A payload that asks itself of the same value -/

namespace Json

def toLoop : Json := .obj [("$ref", .str "#/components/schemas/a")]

/-- A schema that holds if it holds. -/
def loopNode : Json := .obj [("allOf", .arr [toLoop])]

/-- A document with such a payload. -/
def loop : Json :=
  .obj [("asyncapi", .str "3.0.0"), ("info", .obj [("title", .str "t"), ("version", .str "1")]),
    ("components", .obj [("messages", .obj [("m", .obj [("payload", toLoop)])]),
      ("schemas", .obj [("a", loopNode)])])]

def loopInlined : Json :=
  .obj [("asyncapi", .str "3.0.0"), ("info", .obj [("title", .str "t"), ("version", .str "1")]),
    ("components", .obj [("messages", .obj [("m", .obj [("payload", loopNode)])]),
      ("schemas", .obj [("a", .obj [("allOf", .arr [loopNode])])])])]

end Json

namespace Parse

theorem loop_resolve : Served.resolve .loopInlined .document "#/components/schemas/a" =
    some (.document, .obj [("allOf", .arr [.loopNode])]) := by
  have hsplit : Reference.split "#/components/schemas/a" = ("", "/components/schemas/a") := by
    decide +kernel
  rw [Served.resolve, Reference.document, Reference.fragment, hsplit, if_pos (Or.inr ⟨rfl, rfl⟩),
    Json.fragment?_plain (by decide +kernel) (by decide +kernel)]
  rfl

/-- From the schema to itself. -/
theorem loopNode_circular :
    Circular (Served.resolve .loopInlined) Rule.branches (.document, .loopNode) := by
  have hbranch : ∀ x, Draft7.Hands (Served.resolve .loopInlined) Rule.branches
      (.document, .obj [("allOf", .arr [x])]) (.document, x) := by
    intro x
    have hrule : Rule.allOf [x] ∈ Draft7.rules (Members.get? [("allOf", .arr [x])]) := by
      simp [Draft7.rules, Draft7.listRule, Members.get?]
    exact .part rfl hrule List.mem_cons_self
  have hreference : Draft7.Hands (Served.resolve .loopInlined) Rule.branches
      (.document, .toLoop) (.document, .obj [("allOf", .arr [.loopNode])]) :=
    .reference rfl loop_resolve
  refine ⟨_, Relation.ReflTransGen.refl, ?_⟩
  exact ((Relation.TransGen.single (hbranch .toLoop)).tail hreference).tail (hbranch .loopNode)

/-- A document with a payload that goes in a circle is accepted, and whatever the options are, the
payload goes in a circle if the document is accepted. -/
theorem payload_circular_loop :
    (∃ d m, (run .bare .default ⟨false, false, [.native]⟩ .inline (.json .loop)).document = some d ∧
      m ∈ d.messages ∧ m.payload.isSome = true) ∧
    ∀ options d, (run .bare .default options .inline (.json .loop)).document = some d →
      ∀ m ∈ d.messages, ∃ message x, (m.key, .obj message) ∈ Rules.messages d.json ∧
        (Rules.declared d.version m.key message).payload = some x ∧
        Circular (Served.resolve d.json) Rule.branches (.document, x) := by
  constructor
  · have hrun : (run .bare .default ⟨false, false, [.native]⟩ .inline
        (.json .loop)).document.any (fun d => d.messages.any fun m => m.payload.isSome) = true := by
      decide +kernel
    obtain ⟨d, hd, hmessages⟩ := (Option.any_eq_true _ _).1 hrun
    obtain ⟨m, hm, hpayload⟩ := List.any_eq_true.1 hmessages
    exact ⟨d, m, hd, hm, hpayload⟩
  · intro options d hd m hm
    obtain ⟨raw, hraw, haccepted⟩ := accepted_of_document hd
    obtain rfl : Json.loop = raw := Except.ok.inj hraw
    have hstore : (World.bare.loadReferences .default .loop .inline).store = [] :=
      List.isEmpty_iff.1 (by decide +kernel)
    have hjson : d.json = .loopInlined := by
      rw [haccepted.json, World.sources, hstore]
      rfl
    have hversion : (⟨3, 0, 0⟩ : Version) = d.version := Except.ok.inj haccepted.version
    obtain ⟨key, message, hmessage, hbuild⟩ := haccepted.exists_declared hm
    obtain ⟨rfl, _⟩ := Rules.buildMessage_ok hbuild
    rw [hjson] at hmessage ⊢
    rw [← hversion]
    obtain ⟨hkey, hvalue⟩ := Prod.mk.inj (List.mem_singleton.1 hmessage)
    obtain rfl := Json.obj.inj hvalue
    exact ⟨_, .loopNode, hmessage, rfl, loopNode_circular⟩

end Parse
end MessageContract
