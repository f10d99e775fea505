import MessageContract.Proofs.NativePayload
import MessageContract.Proofs.Schema.Conversion

/-!
# Payloads in the OpenAPI format

The payload of a message in the OpenAPI format is converted, and the document that its edges back lead
into is not. So a value is judged as in OpenAPI as far as the payload was inlined, and as in Draft 7
beyond the edges back (`Parse.openApi_verdict_iff`). That is the verdict of OpenAPI throughout if the
schemas there say the same in both idioms, but not for an object that may be `null` behind an edge
back (`Parse.openApi_verdict_beyond`).
-/

namespace MessageContract

namespace Sources

variable {s : Sources} {p : Point} {out v : Json}

/-- A payload has a verdict with the document in the idiom of Draft 7 as well. -/
theorem Brings.exists_mixed (h : s.Brings p out) (hclean : s.inline.findings = []) (htidy : s.Tidy)
    (hfinds : s.FindsAll) (hs : s.Schematic OpenApi.idiom p.origin) (v : Json) :
    ∃ b, (Served.mixed s.inline.value).Verdict .payload (rebase out) v b := by
  obtain ⟨b, hb⟩ := exists_verdict hclean htidy hfinds ⟨p, h.meets, rfl⟩ hs v
  obtain ⟨n, hn⟩ := (h.verdict_iff hclean htidy hfinds hs).2 hb
  have hsome := Reading.evaluate_isSome (fun _ => OpenApi.idiom)
    (Served.mixed s.inline.value).idiom (Served.resolve s.inline.value) n .payload (rebase out) v
  obtain ⟨b', hb'⟩ := Option.isSome_iff_exists.1
    (hsome.symm.trans (Option.isSome_iff_exists.2 ⟨b, hn⟩))
  exact ⟨b', n, hb'⟩

/-- If the schemas beyond the edges back say the same in both idioms, it has the verdict of
OpenAPI. -/
theorem Brings.mixed_of_alike (h : s.Brings p out) (hclean : s.inline.findings = [])
    (htidy : s.Tidy) (hfinds : s.FindsAll) (hs : s.Schematic OpenApi.idiom p.origin)
    (halike : ∀ o, s.Beyond p.origin o → Alike OpenApi.idiom Draft7.idiom o) {b : Bool}
    (hb : (OpenApi.idiom.reading s.resolve).Verdict p.base p.value v b) :
    (Served.mixed s.inline.value).Verdict .payload (rebase out) v b := by
  obtain ⟨n, hn⟩ := h.inlines
  refine verdict_dressed hclean htidy hfinds (Served.mixed s.inline.value).idiom ?_ h.meets hs hn
    (fun _ _ _ _ _ => rfl) halike hb
  rintro (_ | _)
  · exact List.Subset.refl _
  · exact List.subset_cons_self _ _

/-- A payload is converted to a schema that says in Draft 7 what the payload said in OpenAPI, up to
the edges back. -/
theorem Brings.verdict_convert (h : s.Brings p out) (hfinds : s.FindsAll)
    (hs : s.IsOpenApi p.origin) {b : Bool}
    (hb : (Served.mixed s.inline.value).Verdict .payload (rebase out) v b) :
    (Draft7.idiom.reading (Served.resolve s.inline.value)).Verdict .payload
      (rebase (OpenApi.convert out)) v b := by
  obtain ⟨n, hn⟩ := h.inlines
  rw [OpenApi.rebase_convert]
  exact OpenApi.verdict_convert
    (fun u hu => hs.isFormed_within hfinds h.meets hn .payload hu) hb

end Sources

namespace Parse

/-- A payload in the OpenAPI format means what OpenAPI says as far as it was inlined, and what Draft 7
says beyond the edges back. -/
theorem openApi_verdict_iff {w : World} {settings : FetchSettings} {options : ParseOptions}
    {location : Location} {input : Input} {raw : Json} {d : Document} {m : Message} {schema : Json}
    (hd : (run w settings options location input).document = some d)
    (hraw : root input = .ok raw) (hm : m ∈ d.messages) (hschema : m.payload = some schema)
    (hopenApi : options.formats.find? m.schemaFormat = some .openApi)
    (htidy : (w.sources settings raw location).Tidy)
    (hschemas : ∀ o, (w.sources settings raw location).Declares d.version m.key o →
      (w.sources settings raw location).IsOpenApi o)
    (engine : Json → Json → Json → Bool) :
    (options.core = true →
      ∃ c, compileSchema schema d.json = .ok c ∧ c.schema = rebase schema) ∧
    ∃ o payload, (w.sources settings raw location).Declares d.version m.key o ∧
      schema = OpenApi.convert payload ∧
      (∀ v b, (OpenApi.idiom.reading (Served.resolve d.json)).Verdict .payload (rebase payload) v b ↔
        (OpenApi.idiom.reading (w.sources settings raw location).resolve).Verdict
          o.base o.value v b) ∧
      ∀ v, Served.Decides engine (rebase schema) d.json v →
        (∀ b, engine (rebase schema) d.json v = b ↔
          (Served.mixed d.json).Verdict .payload (rebase payload) v b) ∧
        ((∀ b, engine (rebase schema) d.json v = b ↔
            (OpenApi.idiom.reading (w.sources settings raw location).resolve).Verdict
              o.base o.value v b) ↔
          ∃ b, (Served.mixed d.json).Verdict .payload (rebase payload) v b ∧
            (OpenApi.idiom.reading (Served.resolve d.json)).Verdict .payload
              (rebase payload) v b) ∧
        ((∀ o', (w.sources settings raw location).Beyond o o' →
            Sources.Alike OpenApi.idiom Draft7.idiom o') →
          ∀ b, engine (rebase schema) d.json v = b ↔
            (OpenApi.idiom.reading (w.sources settings raw location).resolve).Verdict
              o.base o.value v b) := by
  obtain ⟨raw', hraw', haccepted⟩ := accepted_of_document hd
  obtain rfl := Except.ok.inj (hraw.symm.trans hraw')
  have hclean := haccepted.inlined
  have hfinds := haccepted.findsAll htidy
  refine ⟨fun hcore => ?_, ?_⟩
  · obtain ⟨c, hc⟩ := haccepted.exists_compiled hcore hm hschema
    exact ⟨c, hc, compileSchema_schema hc⟩
  obtain ⟨p, x, f, hdeclares, hp, hf, hconvert⟩ := haccepted.exists_declares htidy hm hschema
  obtain rfl := Option.some.inj (hopenApi.symm.trans hf)
  obtain rfl : OpenApi.convert x = schema := Except.ok.inj hconvert
  have hs := hschemas p.origin hdeclares
  rw [haccepted.json]
  have hfull : ∀ v b, _ := fun v b =>
    hp.verdict_iff (v := v) (b := b) hclean htidy hfinds hs.schematic
  refine ⟨p.origin, x, hdeclares, rfl, hfull, fun v hengine => ?_⟩
  obtain ⟨b, hb⟩ := Sources.exists_verdict hclean htidy hfinds ⟨p, hp.meets, rfl⟩ hs.schematic v
  obtain ⟨b', hb'⟩ := hp.exists_mixed hclean htidy hfinds hs.schematic v
  have hdecided := hengine b' (hp.verdict_convert hfinds hs hb')
  rw [hdecided]
  refine ⟨fun c => ⟨?_, hb'.unique⟩, ⟨fun hclaim => ?_, ?_⟩, fun halike c => ?_⟩
  · rintro rfl
    exact hb'
  · exact ⟨b', hb', (hfull v b').2 ((hclaim b').1 rfl)⟩
  · rintro ⟨c, hc, hcfull⟩ c'
    rw [hb'.unique hc]
    have hcraw := (hfull v c).1 hcfull
    exact ⟨fun h => h ▸ hcraw, hcraw.unique⟩
  · rw [hb'.unique (hp.mixed_of_alike hclean htidy hfinds hs.schematic halike hb)]
    exact ⟨fun h => h ▸ hb, hb.unique⟩

end Parse

/-! ## An object that may be null, behind an edge back -/

/-- The format of OpenAPI schemas. -/
def openApiFormat : String := "application/vnd.oai.openapi;version=3.0.0"

/-- An object with `null` where the schema refers to itself. -/
def Json.nullNext : Json := .obj [("next", .null)]

namespace Sources

theorem isOpenApi_toLink {format : String} : (chain format).IsOpenApi ⟨.inline, Json.toLink⟩ where
  schematic := schematic_toLink (by decide)
  formed := by
    intro o ho
    rcases toLink_reaches ho with rfl | rfl
    · refine ⟨fun ms hms => ?_, fun _ _ hr => ?_⟩
      · cases hms
        decide
      · cases hr
    · refine ⟨fun ms hms => ?_, fun ms hms _ => ⟨fun x hx => ?_, fun xs hxs => ?_, ?_⟩⟩
      all_goals
        cases hms
      · decide
      · exact ⟨"object", (Option.some.inj hx).symm⟩
      · cases hxs
      · decide

end Sources

namespace Parse

/-- The document is accepted, and its payload is refused by Draft 7. -/
theorem exists_chain : ∃ d m schema, (run .bare .default ⟨false, false, [.openApi]⟩ .inline
      (.json (.chain openApiFormat))).document = some d ∧ d.version = ⟨2, 6, 0⟩ ∧
    m ∈ d.messages ∧ m.payload = some schema ∧
    Registry.find? [.openApi] m.schemaFormat = some .openApi ∧
    (Draft7.idiom.reading (Served.resolve d.json)).evaluate 9 .payload (rebase schema)
      .nullNext = some false := by
  obtain ⟨d, m, schema, hd, hversion, hm, hschema, hformat, hfalse⟩ :=
    exists_chain_payload .openApi openApiFormat (fun d schema =>
      (Draft7.idiom.reading (Served.resolve d.json)).evaluate 9 .payload (rebase schema)
        .nullNext == some false) (by decide +kernel)
  exact ⟨d, m, schema, hd, hversion, hm, hschema, hformat, beq_iff_eq.1 hfalse⟩

/-- Behind the edge back the document is read as it is, and `null` refused. -/
theorem openApi_verdict_iff_chain :
    ∃ d m schema payload, (run .bare .default ⟨false, false, [.openApi]⟩ .inline
        (.json (.chain openApiFormat))).document = some d ∧ m ∈ d.messages ∧
      m.payload = some schema ∧ schema = OpenApi.convert payload ∧
      (Served.mixed d.json).Verdict .payload (rebase payload) .nullNext false := by
  obtain ⟨d, m, schema, hd, hversion, hm, hschema, hformat, hfalse⟩ := exists_chain
  have hschemas : ∀ o, (Sources.chain openApiFormat).Declares d.version m.key o →
      (Sources.chain openApiFormat).IsOpenApi o := by
    intro o ho
    rw [hversion] at ho
    rw [Sources.chain_declares ho]
    exact Sources.isOpenApi_toLink
  obtain ⟨_, o, payload, _, hconvert, _, hall⟩ := openApi_verdict_iff hd rfl hm hschema hformat
    (World.sources_chain _ ▸ Sources.tidy_chain) (World.sources_chain _ ▸ hschemas)
    (fun schema document v =>
      ((Draft7.idiom.reading (Served.resolve document)).evaluate 9 .payload schema v).getD false)
  have hengine : ((Draft7.idiom.reading (Served.resolve d.json)).evaluate 9 .payload (rebase schema)
      .nullNext).getD false = false := by
    rw [hfalse]
    rfl
  obtain ⟨hiff, _⟩ := hall .nullNext fun b hb =>
    hengine.trans (Reading.Verdict.unique ⟨9, hfalse⟩ hb)
  exact ⟨d, m, schema, payload, hd, hm, hschema, hconvert, (hiff false).1 hengine⟩

/-- An object that may be `null` may not where its schema refers to itself. -/
theorem openApi_verdict_beyond :
    ∃ d m schema o, (run .bare .default ⟨false, false, [.openApi]⟩ .inline
        (.json (.chain openApiFormat))).document = some d ∧ m ∈ d.messages ∧
      m.payload = some schema ∧ Registry.find? [.openApi] m.schemaFormat = some .openApi ∧
      (Sources.chain openApiFormat).Declares d.version m.key o ∧
      (OpenApi.idiom.reading (Sources.chain openApiFormat).resolve).Verdict o.base o.value
        .nullNext true ∧
      (Draft7.idiom.reading (Served.resolve d.json)).Verdict .payload (rebase schema)
        .nullNext false := by
  obtain ⟨d, m, schema, hd, hversion, hm, hschema, hformat, hfalse⟩ := exists_chain
  obtain ⟨raw, hraw, haccepted⟩ := accepted_of_document hd
  obtain rfl : Json.chain openApiFormat = raw := Except.ok.inj hraw
  obtain ⟨p, _, _, hdeclares, _⟩ :=
    haccepted.exists_declares (World.sources_chain _ ▸ Sources.tidy_chain) hm hschema
  rw [World.sources_chain] at hdeclares
  have hp := Sources.chain_declares (hversion ▸ hdeclares)
  have htrue : (OpenApi.idiom.reading (Sources.chain openApiFormat).resolve).evaluate 9 .inline
      .toLink .nullNext = some true := by
    decide +kernel
  refine ⟨d, m, schema, p.origin, hd, hm, hschema, hformat, hdeclares, ⟨9, ?_⟩, 9, hfalse⟩
  rw [hp]
  exact htrue

end Parse
end MessageContract
