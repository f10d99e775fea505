import MessageContract.Proofs.Declaration
import MessageContract.Proofs.Schema.Compilation
import MessageContract.Proofs.Schema.Totality

/-!
# Payloads in native formats

Inlining keeps what payload schemas mean. In a tidy document the payload of a message, beside the
document with its references inlined, has the verdicts of the raw payload whose references are
followed in the raw documents, when they are called for (`Parse.payload_verdict_iff`).
-/

namespace MessageContract

/-- On a value an engine goes by Draft 7, with the document at its address. -/
def Served.Decides (engine : Json → Json → Json → Bool) (schema document v : Json) : Prop :=
  ∀ b, (Draft7.idiom.reading (Served.resolve document)).Verdict .payload schema v b →
    engine schema document v = b

/-- What a payload came out as has, beside the served document, the verdicts of its declaration. -/
theorem Sources.Brings.verdict_iff {s : Sources} {t : Idiom} {p : Point} {out v : Json} {b : Bool}
    (h : s.Brings p out) (hclean : s.inline.findings = []) (htidy : s.Tidy) (hfinds : s.FindsAll)
    (hs : s.Schematic t p.origin) :
    (t.reading (Served.resolve s.inline.value)).Verdict .payload (rebase out) v b ↔
      (t.reading s.resolve).Verdict p.base p.value v b := by
  obtain ⟨n, hn⟩ := h.inlines
  have hserved : ∀ b, (t.reading s.resolve).Verdict p.base p.value v b →
      (t.reading (Served.resolve s.inline.value)).Verdict .payload (rebase out) v b := fun b hb =>
    verdict_dressed hclean htidy hfinds (fun _ => t) (fun _ => List.Subset.refl _) h.meets hs hn
      (fun _ _ _ _ _ => rfl) (fun _ _ _ _ _ => rfl) hb
  refine ⟨fun hb => ?_, hserved b⟩
  obtain ⟨b', hb'⟩ := exists_verdict hclean htidy hfinds ⟨p, h.meets, rfl⟩ hs v
  rw [hb.unique (hserved b' hb')]
  exact hb'

namespace Parse

/-- A payload in a native format means what its raw declaration means. -/
theorem payload_verdict_iff {w : World} {settings : FetchSettings} {options : ParseOptions}
    {location : Location} {input : Input} {raw : Json} {d : Document} {m : Message} {schema : Json}
    (hd : (run w settings options location input).document = some d)
    (hraw : root input = .ok raw) (hm : m ∈ d.messages) (hschema : m.payload = some schema)
    (hnative : options.formats.find? m.schemaFormat = some .native)
    (htidy : (w.sources settings raw location).Tidy)
    (hschematic : ∀ o, (w.sources settings raw location).Declares d.version m.key o →
      (w.sources settings raw location).Schematic Draft7.idiom o)
    (engine : Json → Json → Json → Bool) :
    (options.core = true →
      ∃ c, compileSchema schema d.json = .ok c ∧ c.schema = rebase schema) ∧
    ∃ o, (w.sources settings raw location).Declares d.version m.key o ∧
      ∀ v, Served.Decides engine (rebase schema) d.json v → ∀ b,
        (engine (rebase schema) d.json v = b ↔
          (Draft7.idiom.reading (w.sources settings raw location).resolve).Verdict
            o.base o.value v b) := by
  obtain ⟨raw', hraw', haccepted⟩ := accepted_of_document hd
  obtain rfl := Except.ok.inj (hraw.symm.trans hraw')
  have hfinds := haccepted.findsAll htidy
  refine ⟨fun hcore => ?_, ?_⟩
  · obtain ⟨c, hc⟩ := haccepted.exists_compiled hcore hm hschema
    exact ⟨c, hc, compileSchema_schema hc⟩
  obtain ⟨p, x, f, hdeclares, hp, hf, hconvert⟩ := haccepted.exists_declares htidy hm hschema
  obtain rfl := Option.some.inj (hnative.symm.trans hf)
  obtain rfl : x = schema := Except.ok.inj hconvert
  have hs := hschematic p.origin hdeclares
  refine ⟨p.origin, hdeclares, fun v hengine b => ?_⟩
  obtain ⟨b', hb'⟩ :=
    Sources.exists_verdict haccepted.inlined htidy hfinds ⟨p, hp.meets, rfl⟩ hs v
  have hserved := (hp.verdict_iff haccepted.inlined htidy hfinds hs).2 hb'
  rw [← haccepted.json] at hserved
  rw [hengine b' hserved]
  constructor
  · rintro rfl
    exact hb'
  · exact fun hb => hb'.unique hb

end Parse

/-! ## A payload that refers to itself -/

namespace Json

/-- A reference to the object that may hold another one like it. -/
def toLink : Json := .obj [("$ref", .str "#/components/schemas/link")]

def nextLink : Json := .obj [("next", toLink)]

/-- An object that may hold another one like it. -/
def link : Json :=
  .obj [("type", .str "object"), ("nullable", .bool true), ("properties", nextLink)]

def chainMessage (format : String) : Json :=
  .obj [("schemaFormat", .str format), ("payload", toLink)]

def chainComponents (format : String) : Json :=
  .obj [("messages", .obj [("m", chainMessage format)]), ("schemas", .obj [("link", link)])]

/-- A message whose payload refers to itself from inside. -/
def chain (format : String) : Json :=
  .obj [("asyncapi", .str "2.6.0"), ("components", chainComponents format)]

/-- All values in the document. -/
def chainParts (format : String) : List Json :=
  [chain format, chainComponents format, .obj [("m", chainMessage format)], chainMessage format,
    .obj [("link", link)], link, nextLink, toLink, .str "2.6.0", .str format, .str "object",
    .bool true, .str "#/components/schemas/link"]

/-- Links in the document lead to smaller ones. -/
def chainRank (v : Json) : Nat :=
  if v.reference?.isSome then 3
  else if (v.get? "type").isSome then 2
  else if v.children.isEmpty then 1
  else v.count + 1

variable {format : String}

theorem chainParts_closed :
    ∀ u ∈ chainParts format, ∀ w ∈ u.children, w ∈ chainParts format := by
  simp [chainParts, children, chain, chainComponents, chainMessage, link, nextLink, toLink]

theorem mem_chainParts {v : Json} (h : (chain format).Holds v) : v ∈ chainParts format := by
  induction h with
  | refl => exact List.mem_cons_self
  | tail _ hw ih => exact chainParts_closed _ ih _ hw

theorem eq_toLink {v : Json} {r : String} (hv : v ∈ chainParts format)
    (hr : v.reference? = some r) : v = toLink ∧ r = "#/components/schemas/link" := by
  revert v
  simp [chainParts, reference?, chain, chainComponents, chainMessage, link, nextLink, toLink,
    Members.get?]
  exact Eq.symm

end Json

namespace Sources

/-- The document, which needs no other. -/
def chain (format : String) : Sources := ⟨Json.chain format, .inline, []⟩

variable {format : String}

theorem chain_resolve :
    (chain format).resolve .inline "#/components/schemas/link" = some (.inline, Json.link) := by
  rfl

theorem chain_point {p : Point} (hp : (chain format).Meets (chain format).start p) :
    p.base = .inline ∧ p.value ∈ Json.chainParts format := by
  obtain ⟨d, hd, hbase, hholds⟩ := hp.stands (chain format).stands_start
  obtain rfl := List.mem_singleton.1 hd
  exact ⟨hbase.symm, Json.mem_chainParts hholds⟩

theorem chain_refers {o o' : Origin} (hbase : o.base = .inline)
    (ho : o.value ∈ Json.chainParts format) (h : (chain format).Refers o o') :
    o.value = Json.toLink ∧ o' = ⟨.inline, Json.link⟩ := by
  obtain ⟨r, hr, hx⟩ := h
  obtain ⟨hv, rfl⟩ := Json.eq_toLink ho hr
  rw [hbase, chain_resolve] at hx
  obtain ⟨base, value⟩ := o'
  cases hx
  exact ⟨hv, rfl⟩

theorem chain_holdsMessages {o : Origin} (h : (chain format).HoldsMessages o) :
    o = ⟨.inline, .obj [("m", Json.chainMessage format)]⟩ := by
  obtain ⟨⟨cb, cv⟩, ⟨mb, mv⟩, hc, hm, hleaps⟩ := h
  obtain ⟨hget, hbase⟩ := hc.get?_of_plain rfl
  cases hbase
  cases hget
  obtain ⟨hget, hbase⟩ := hm.get?_of_plain rfl
  cases hbase
  cases hget
  exact hleaps.eq_of_plain rfl

theorem chain_link {o o' : Origin} (hbase : o.base = .inline)
    (ho : o.value ∈ Json.chainParts format) (h : (chain format).Link o o') :
    o'.base = .inline ∧ o'.value ∈ Json.chainParts format ∧
      o'.value.chainRank < o.value.chainRank := by
  have hrank : ∀ u ∈ Json.chainParts format, u.reference? = none → u.get? "type" = none →
      ∀ w ∈ u.children, w.chainRank < u.chainRank := by
    simp [Json.chainParts, Json.children, Json.chain, Json.chainComponents, Json.chainMessage,
      Json.link, Json.nextLink, Json.toLink, Json.reference?, Members.get?, Json.get?,
      Json.chainRank, Json.count, Json.countMembers]
  have hmembers : ∀ u ∈ Json.chainParts format, (∀ xs, u ≠ .arr xs) ∧
      (∀ ds, ("dependencies", .obj ds) ∉ Draft7.membersOf u) ∧
      ((u.get? "type").isSome = true → u = Json.link) := by
    simp [Json.chainParts, Json.chain, Json.chainComponents, Json.chainMessage, Json.link,
      Json.nextLink, Json.toLink, Draft7.membersOf, Members.get?, Json.get?]
  obtain ⟨harr, hdependencies, hlink⟩ := hmembers o.value ho
  cases h with
  | refers h =>
    obtain ⟨hv, rfl⟩ := chain_refers hbase ho h
    rw [hv]
    exact ⟨rfl, by simp [Json.chainParts], by decide +kernel⟩
  | item hv _ => exact absurd hv (harr _)
  | dependency hv _ hds _ _ =>
    rw [hv] at hdependencies
    exact absurd hds (hdependencies _)
  | @member ms name w hv hr hmem hstays =>
    have hchild : w ∈ o.value.children := by
      rw [hv]
      exact List.mem_map.2 ⟨_, hmem, rfl⟩
    refine ⟨hbase, Json.chainParts_closed _ ho _ hchild, ?_⟩
    cases htype : o.value.get? "type" with
    | none => exact hrank o.value ho hr htype w hchild
    | some x =>
      have hvalue : o.value = Json.link := hlink (by rw [htype]; rfl)
      obtain rfl := Json.obj.inj (hv.symm.trans hvalue)
      rw [hvalue]
      rcases hstays with hnot | hholds
      · simp only [List.mem_cons, Prod.mk.injEq, List.not_mem_nil, or_false] at hmem
        rcases hmem with ⟨_, rfl⟩ | ⟨_, rfl⟩ | ⟨rfl, _⟩
        · show (Json.str "object").chainRank < _
          decide +kernel
        · show (Json.bool true).chainRank < _
          decide +kernel
        · exact absurd (by decide) hnot
      · rw [chain_holdsMessages hholds] at hvalue
        simp [Json.link] at hvalue

theorem tidy_chain : (chain format).Tidy where
  straight := by
    intro p r d hp hr hfind
    obtain ⟨hbase, hv⟩ := chain_point hp
    obtain ⟨_, rfl⟩ := Json.eq_toLink hv hr
    rw [hbase] at hfind
    have hd : (.inline, Json.chain format) = d := Option.some.inj hfind
    rw [← hd]
    intro ss hss
    have hsegments : ["components".toList, "schemas".toList, "link".toList] = ss :=
      Option.some.inj hss
    rw [← hsegments]
    refine ⟨rfl, fun w hw => ?_⟩
    cases hw
    refine ⟨rfl, fun w hw => ?_⟩
    cases hw
    refine ⟨rfl, fun w hw => ?_⟩
    cases hw
    trivial
  plain := by
    intro p r hp hr
    obtain ⟨_, rfl⟩ := Json.eq_toLink (chain_point hp).2 hr
    have hall : (Reference.fragment "#/components/schemas/link").toList.all
        (fun c => Uri.isFragmentChar c && c != '%') = true := by
      decide +kernel
    intro c hc
    simpa using List.all_eq_true.1 hall c hc
  descends := by
    intro p hp hcircle
    have hless : ∀ o, Relation.TransGen (chain format).Link p.origin o → o.base = .inline ∧
        o.value ∈ Json.chainParts format ∧ o.value.chainRank < p.value.chainRank := by
      intro o ho
      induction ho with
      | single h =>
        obtain ⟨hbase, hv⟩ := chain_point hp
        exact chain_link (o := p.origin) hbase hv h
      | tail _ h ih =>
        obtain ⟨hbase, hv, hlt⟩ := ih
        obtain ⟨hbase', hv', hlt'⟩ := chain_link hbase hv h
        exact ⟨hbase', hv', Nat.lt_trans hlt' hlt⟩
    exact Nat.lt_irrefl _ (hless p.origin hcircle).2.2

theorem chain_declares {key : String} {o : Origin} (h : (chain format).Declares ⟨2, 6, 0⟩ key o) :
    o = ⟨.inline, Json.toLink⟩ := by
  obtain ⟨holder, ms, message, ⟨pb, pv⟩, hholds, hv, hmem, hunder, hend⟩ := h
  obtain rfl := chain_holdsMessages hholds
  cases hv
  cases List.mem_singleton.1 hmem
  obtain ⟨hget, hbase⟩ := hunder.get?_of_plain rfl
  cases hbase
  cases hget
  rcases hend with ⟨⟨hthree, _⟩, _⟩ | ⟨_, rfl⟩
  · cases hthree
  · rfl

theorem link_applies {o : Origin} (h : (chain format).Applies ⟨.inline, Json.link⟩ o) :
    o = ⟨.inline, Json.toLink⟩ := by
  cases h with
  | refers h => exact absurd h (not_refers_of_plain rfl)
  | @part ms rule x hv _ hrule hx =>
    cases hv
    suffices hall : ∀ rule ∈ Draft7.rules (Members.get? _), ∀ x,
        (x ∈ rule.inPlace ∨ x ∈ rule.below) → x = Json.toLink by
      rw [hall rule hrule x hx]
    simp [Draft7.rules, Members.get?, Draft7.itemRules, Draft7.memberRules, Draft7.listRule,
      Draft7.schemasOf, Draft7.Rule.inPlace, Draft7.Rule.below, Json.nextLink, Draft7.membersOf]

theorem toLink_applies {o : Origin} (h : (chain format).Applies ⟨.inline, Json.toLink⟩ o) :
    o = ⟨.inline, Json.link⟩ := by
  cases h with
  | refers h => exact (chain_refers rfl (by simp [Json.chainParts]) h).2
  | part _ hr _ _ => cases hr

variable {t : Idiom}

theorem wellPlaced_link (ht : "properties" ∉ t.keywords) :
    (chain format).WellPlaced t ⟨.inline, Json.link⟩ := by
  have hget : ∀ ms k x, Json.link = .obj ms → Members.get? ms k = some x →
      k = "type" ∧ x = .str "object" ∨ k = "nullable" ∧ x = .bool true ∨
        k = "properties" ∧ x = Json.nextLink := by
    rintro ms k x hms hx
    cases hms
    simpa using Members.mem_of_get? hx
  refine ⟨fun o' h => absurd h (not_refers_of_plain rfl), ?_, ?_, ?_, ?_⟩
  · rintro ms hms _
    cases hms
    rfl
  · rintro ms hms _ k hk x hx
    have hleaf : ∀ {x : Json}, x.children = [] → (∀ ns, x ≠ .obj ns) → x.IsPlain := by
      rintro x hx hobj v hv ⟨ns, text, rfl, _⟩
      rcases Json.holds_iff.1 hv with rfl | ⟨w, hw, _⟩
      · exact hobj _ rfl
      · rw [hx] at hw
        cases hw
    rcases hget ms k x hms hx with ⟨_, rfl⟩ | ⟨_, rfl⟩ | ⟨rfl, _⟩
    · exact hleaf rfl (by simp)
    · exact hleaf rfl (by simp)
    · exact absurd hk (by simp [ht])
  · rintro ms hms _ k hk x hx
    rcases hget ms k x hms hx with ⟨rfl, _⟩ | ⟨rfl, _⟩ | ⟨_, rfl⟩
    · exact absurd hk (by decide)
    · exact absurd hk (by decide)
    · rintro ⟨ns, t, hns, ht⟩
      cases hns
      simp at ht
  · rintro ms hms _ ds hds
    cases hms
    cases hds

theorem wellPlaced_toLink : (chain format).WellPlaced t ⟨.inline, Json.toLink⟩ := by
  refine ⟨fun o' h => ?_, ?_, ?_, ?_, ?_⟩
  · rw [toLink_applies (Applies.refers h)]
    rfl
  all_goals
    intro _ _ hr
    cases hr

theorem toLink_reaches {o : Origin}
    (ho : Relation.ReflTransGen (chain format).Applies ⟨.inline, Json.toLink⟩ o) :
    o = ⟨.inline, Json.toLink⟩ ∨ o = ⟨.inline, Json.link⟩ := by
  induction ho with
  | refl => exact Or.inl rfl
  | tail _ h ih =>
    rcases ih with rfl | rfl
    · exact Or.inr (toLink_applies h)
    · exact Or.inl (link_applies h)

theorem schematic_toLink (ht : "properties" ∉ t.keywords) :
    (chain format).Schematic t ⟨.inline, Json.toLink⟩ := by
  intro o ho
  rcases toLink_reaches ho with rfl | rfl
  · exact wellPlaced_toLink
  · exact wellPlaced_link ht

end Sources

/-- The document loads nothing. -/
theorem World.sources_chain (format : String) :
    World.bare.sources .default (.chain format) .inline = Sources.chain format := rfl

/-- What a check of the accepted document and of its payload tells, where one format is known. -/
theorem Parse.exists_chain_payload (f : SchemaFormat) (format : String)
    (check : Document → Json → Bool)
    (h : (run .bare .default ⟨false, false, [f]⟩ .inline (.json (.chain format))).document.any
      (fun d => d.version == ⟨2, 6, 0⟩ && d.messages.any fun m =>
        (Registry.find? [f] m.schemaFormat).isSome && m.payload.any (check d)) = true) :
    ∃ d m schema, (run .bare .default ⟨false, false, [f]⟩ .inline
        (.json (.chain format))).document = some d ∧ d.version = ⟨2, 6, 0⟩ ∧ m ∈ d.messages ∧
      m.payload = some schema ∧ Registry.find? [f] m.schemaFormat = some f ∧
      check d schema = true := by
  obtain ⟨d, hd, hall⟩ := (Option.any_eq_true _ _).1 h
  obtain ⟨hversion, hmessages⟩ := Bool.and_eq_true_iff.1 hall
  obtain ⟨m, hm, hpayload⟩ := List.any_eq_true.1 hmessages
  obtain ⟨hfound, hpayload⟩ := Bool.and_eq_true_iff.1 hpayload
  obtain ⟨schema, hschema, hcheck⟩ := (Option.any_eq_true _ _).1 hpayload
  obtain ⟨f', hf⟩ := Option.isSome_iff_exists.1 hfound
  rw [List.mem_singleton.1 (List.mem_of_find?_eq_some hf)] at hf
  exact ⟨d, m, schema, hd, beq_iff_eq.1 hversion, hm, hschema, hf, hcheck⟩

/-- The format of schemas that are plain JSON Schema. -/
def plainFormat : String := "application/schema+json;version=draft-07"

/-- Beyond the edge back a payload is refused that has no object there. -/
theorem Parse.payload_verdict_iff_chain :
    ∃ d m schema o, (run .bare .default ⟨false, false, [.native]⟩ .inline
        (.json (.chain plainFormat))).document = some d ∧ m ∈ d.messages ∧
      m.payload = some schema ∧ (Sources.chain plainFormat).Declares d.version m.key o ∧
      (Draft7.idiom.reading (Sources.chain plainFormat).resolve).Verdict o.base o.value
        (.obj [("next", .obj [("next", .bool true)])]) false := by
  obtain ⟨d, m, schema, hd, hversion, hm, hschema, hnative, hfalse⟩ :=
    exists_chain_payload .native plainFormat (fun d schema =>
      (Draft7.idiom.reading (Served.resolve d.json)).evaluate 9 .payload (rebase schema)
        (.obj [("next", .obj [("next", .bool true)])]) == some false) (by decide +kernel)
  have hverdict := beq_iff_eq.1 hfalse
  have hschematic : ∀ o, (Sources.chain plainFormat).Declares d.version m.key o →
      (Sources.chain plainFormat).Schematic Draft7.idiom o := by
    intro o ho
    rw [hversion] at ho
    rw [Sources.chain_declares ho]
    exact Sources.schematic_toLink (by decide)
  obtain ⟨_, o, hdeclares, hiff⟩ := payload_verdict_iff hd rfl hm hschema hnative
    (World.sources_chain _ ▸ Sources.tidy_chain) (World.sources_chain _ ▸ hschematic)
    (fun schema document v =>
      ((Draft7.idiom.reading (Served.resolve document)).evaluate 9 .payload schema v).getD false)
  rw [World.sources_chain] at hdeclares hiff
  have hengine : ((Draft7.idiom.reading (Served.resolve d.json)).evaluate 9 .payload (rebase schema)
      (.obj [("next", .obj [("next", .bool true)])])).getD false = false := by
    rw [hverdict]
    rfl
  refine ⟨d, m, schema, o, hd, hm, hschema, hdeclares, (hiff _ (fun b hb => ?_) false).1 hengine⟩
  exact hengine.trans (Reading.Verdict.unique ⟨9, hverdict⟩ hb)

end MessageContract
