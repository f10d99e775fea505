import MessageContract.Proofs.Schema.Simulation

/-!
# The raw declarations of payloads

A payload in what comes out of a document was declared in a raw document: under the message, seen
through references, or one level further in where a format is named (`Sources.Declares`). What comes
out is followed back (`Sources.Brings`) to the declaration of every message that is accepted, if it
comes from the end of the references on the way (`Sources.Arrives`): so it does in tidy documents
(`Parse.Accepted.exists_declares`), and wherever no reference is left on the way (`Rules.OnWay`).
-/

namespace MessageContract

/-- The values that the payload of a message is looked for in. -/
inductive Rules.OnWay (v : Version) (document : Json) (key : String) : Json → Prop
  | document : OnWay v document key document
  | components {c : Json} (found : document.get? "components" = some c) : OnWay v document key c
  | messages {c ms : Json} (components : document.get? "components" = some c)
      (found : c.get? "messages" = some ms) : OnWay v document key ms
  | message {message : Json} (declared : (key, message) ∈ Rules.messages document) :
      OnWay v document key message
  | payload {message : Members} {x : Json} (version : v.isV3 = true)
      (declared : (key, .obj message) ∈ Rules.messages document)
      (found : Members.get? message "payload" = some x) : OnWay v document key x
  | format {message : Members} {x f : Json} (version : v.isV3 = true)
      (declared : (key, .obj message) ∈ Rules.messages document)
      (payload : Members.get? message "payload" = some x)
      (found : x.get? "schemaFormat" = some f) : OnWay v document key f

namespace Sources

variable (s : Sources)

/-- A value that carries a format and a schema, seen through references. -/
def IsMultiFormat (o : Origin) : Prop :=
  (∃ x base format, s.Under o "schemaFormat" x ∧ s.Leaps x ⟨base, .str format⟩) ∧
    ∃ x, s.Under o "schema" x

/-- The raw payload of a message: in 3.x one with a format holds its schema inside. -/
def Declares (v : Version) (key : String) (o : Origin) : Prop :=
  ∃ holder ms message payload, s.HoldsMessages holder ∧ holder.value = .obj ms ∧
    (key, message) ∈ ms ∧ s.Under { holder with value := message } "payload" payload ∧
    ((v.isV3 = true ∧ s.IsMultiFormat payload) ∧ s.Under payload "schema" o ∨
      ¬ (v.isV3 = true ∧ s.IsMultiFormat payload) ∧ o = payload)

/-- A value comes out at a point that inlining comes to. -/
structure Brings (s : Sources) (p : Point) (out : Json) : Prop where
  meets : s.Meets s.start p
  rooted : s.Rooted p
  inlines : ∃ n, s.Inlines n p.stack p.base p.value out

/-- What comes out at a point comes out at the end of the references there. -/
def Arrives (s : Sources) (p : Point) (out : Json) : Prop :=
  ∃ q, s.Leaps p.origin q.origin ∧ s.Brings q out

variable {s}

theorem brings_start (hclean : s.inline.findings = []) : s.Brings s.start s.inline.value :=
  ⟨Meets.refl s.start, s.rooted_start, s.bound, inlines_root hclean⟩

/-- References lead on until there is none, or one stays as an edge back. -/
theorem Brings.exists_end (hfinds : s.FindsAll) {p : Point} {out : Json} (h : s.Brings p out) :
    s.Arrives p out ∨ ∃ q r t v, s.Keeps q r t v ∧ s.Brings q out := by
  obtain ⟨n, hn⟩ := h.inlines
  obtain ⟨q, m, hq, hm, hend⟩ := hn.exists_leads
  have hmeets : s.Meets s.start q := Relation.ReflTransGen.trans h.meets (meets_of_leads hq)
  have hbrings : s.Brings q out := ⟨hmeets, h.rooted.leads hq, m, hm⟩
  rcases hend with hplain | ⟨r, hr, hnone⟩ | ⟨r, t, v, hk⟩
  · exact Or.inl ⟨q, ⟨refers_of_leads hq, hplain⟩, hbrings⟩
  · exact absurd hnone (hfinds q r hmeets hr)
  · exact Or.inr ⟨q, r, t, v, hk, hbrings⟩

theorem Brings.arrives (htidy : s.Tidy) (hfinds : s.FindsAll) {p : Point} {out : Json}
    (h : s.Brings p out) : s.Arrives p out := by
  rcases h.exists_end hfinds with harrives | ⟨q, r, t, v, hk, hq⟩
  · exact harrives
  · exact absurd hk (hq.rooted.not_keeps (htidy.descends q hq.meets))

/-- An edge back leaves a reference. -/
theorem Brings.arrives_of_plain (hfinds : s.FindsAll) {p : Point} {out : Json}
    (h : s.Brings p out) (hout : out.reference? = none) : s.Arrives p out := by
  rcases h.exists_end hfinds with harrives | ⟨q, r, t, v, hk, hq⟩
  · exact harrives
  · obtain ⟨n, hn⟩ := hq.inlines
    rw [hn.eq_backEdge hk, reference?_backEdge hk.reference] at hout
    cases hout

/-- What comes out at a value that is no reference object has the same form. -/
theorem Brings.exists_members {q : Point} {ns : Members} (h : s.Brings q (.obj ns))
    (hr : q.value.reference? = none) : ∃ n ms, q.value = .obj ms ∧
      List.Forall₂ (fun m n' => m.1 = n'.1 ∧ s.Inlines n q.stack q.base m.2 n'.2) ms ns := by
  obtain ⟨n, hn⟩ := h.inlines
  exact ⟨n, hn.exists_members hr⟩

theorem Brings.member {q : Point} {out : Json} (h : s.Brings q out) {ms : Members}
    (hv : q.value = .obj ms) (hr : q.value.reference? = none) {name : String} {w x : Json}
    (hw : (name, w) ∈ ms) (hname : name ∉ Draft7.descending ∨ s.HoldsMessages q.origin)
    (hx : ∃ n, s.Inlines n q.stack q.base w x) : s.Brings { q with value := w } x where
  meets := by
    refine Relation.ReflTransGen.tail h.meets (Step.part hr ?_)
    rw [hv]
    exact List.mem_map.2 ⟨_, hw, rfl⟩
  rooted := h.rooted.link (Link.member (o := q.origin) hv hr hw hname)
  inlines := hx

/-- What stands under a name in what comes out stood there before. -/
theorem Arrives.under {p : Point} {out : Json} (h : s.Arrives p out) {name : String}
    (hname : name ∉ Draft7.descending) {v : Json}
    (hv : out.get? name = some v) : ∃ q, s.Under p.origin name q.origin ∧ s.Brings q v := by
  obtain ⟨q, hleaps, hq⟩ := h
  cases out with
  | obj ns =>
    obtain ⟨n, ms, hvalue, hall⟩ := hq.exists_members hleaps.2
    obtain ⟨w, hw, hin⟩ := forall₂_get?_right hall hv
    refine ⟨{ q with value := w }, ⟨q.origin, hleaps, ?_, rfl⟩, ?_⟩
    · show q.value.get? name = some w
      rw [hvalue]
      exact hw
    · exact hq.member hvalue hleaps.2 (Members.mem_of_get? hw) (Or.inl hname) ⟨n, hin⟩
  | _ => cases hv

/-- What stood under a name stands there in what comes out. -/
theorem Arrives.get?_of_under {p : Point} {out : Json} (h : s.Arrives p out) {name : String}
    (hname : name ∉ Draft7.descending) {o : Origin} (ho : s.Under p.origin name o) :
    ∃ q v, q.origin = o ∧ out.get? name = some v ∧ s.Brings q v := by
  obtain ⟨q, hleaps, hq⟩ := h
  obtain ⟨base, value⟩ := o
  obtain ⟨q', hleaps', hget, hbase⟩ := ho
  obtain rfl := hleaps.unique hleaps'
  cases hbase
  have hmember : ∃ ms, q.value = .obj ms ∧ Members.get? ms name = some value := by
    obtain ⟨stack, base, v⟩ := q
    cases v with
    | obj ms => exact ⟨ms, rfl, hget⟩
    | _ => cases hget
  obtain ⟨ms, hvalue, hw⟩ := hmember
  obtain ⟨n, hn⟩ := hq.inlines
  rw [hvalue] at hn
  obtain ⟨ns, rfl, hall⟩ := inlines_obj (hvalue ▸ hleaps.2) hn
  obtain ⟨v, hv, hin⟩ := forall₂_get? hall hw
  exact ⟨{ q with value := value }, v, rfl, hv,
    hq.member hvalue hleaps.2 (Members.mem_of_get? hw) (Or.inl hname) ⟨n, hin⟩⟩

/-- A text comes out where references lead to it. -/
theorem Arrives.str_iff {p : Point} {out : Json} (h : s.Arrives p out) {text : String} :
    out = .str text ↔ ∃ base, s.Leaps p.origin ⟨base, .str text⟩ := by
  obtain ⟨q, hleaps, hq⟩ := h
  obtain ⟨n, hn⟩ := hq.inlines
  constructor
  · rintro rfl
    obtain ⟨stack, base, value⟩ := q
    cases value with
    | obj ms =>
      obtain ⟨ns, heq, _⟩ := inlines_obj hleaps.2 hn
      cases heq
    | arr xs =>
      obtain ⟨ys, heq, _⟩ := inlines_arr hn
      cases heq
    | str t =>
      cases inlines_leaf ⟨by simp, by simp⟩ hn
      exact ⟨base, hleaps⟩
    | _ => cases inlines_leaf ⟨by simp, by simp⟩ hn
  · rintro ⟨base, hleaps'⟩
    have hvalue : q.value = .str text := congrArg Origin.value (hleaps.unique hleaps')
    rw [hvalue] at hn
    exact inlines_leaf ⟨by simp, by simp⟩ hn

/-- A payload carries a format and a schema in what comes out if it did before. -/
theorem Arrives.multiFormat?_isSome {p : Point} {out : Json} (h : s.Arrives p out)
    (hformat : ∀ q v, s.Brings q v → out.get? "schemaFormat" = some v → s.Arrives q v) :
    (Rules.multiFormat? out).isSome = true ↔ s.IsMultiFormat p.origin := by
  have hsome : (Rules.multiFormat? out).isSome = true ↔
      (∃ format, out.get? "schemaFormat" = some (.str format)) ∧
        ∃ schema, out.get? "schema" = some schema := by
    rw [Rules.multiFormat?]
    split
    · next format schema hformat hschema => simp [hformat, hschema]
    · next hnot =>
      refine iff_of_false Bool.false_ne_true ?_
      rintro ⟨⟨format, hformat⟩, schema, hschema⟩
      exact hnot format schema hformat hschema
  rw [hsome]
  constructor
  · rintro ⟨⟨format, hget⟩, schema, hschema⟩
    obtain ⟨q, hunder, hq⟩ := h.under (by decide) hget
    obtain ⟨base, hleaps⟩ := (hformat q _ hq hget).str_iff.1 rfl
    obtain ⟨q', hunder', _⟩ := h.under (by decide) hschema
    exact ⟨⟨_, base, format, hunder, hleaps⟩, _, hunder'⟩
  · rintro ⟨⟨x, base, format, hunder, hleaps⟩, x', hunder'⟩
    obtain ⟨q, v, rfl, hv, hq⟩ := h.get?_of_under (by decide) hunder
    obtain ⟨q', v', _, hv', _⟩ := h.get?_of_under (by decide) hunder'
    refine ⟨⟨format, ?_⟩, v', hv'⟩
    rw [hv, (hformat q v hq hv).str_iff.2 ⟨base, hleaps⟩]

/-! ## Messages -/

/-- A declared message was declared in a raw document. -/
theorem exists_message {v : Version} {key : String} (hclean : s.inline.findings = [])
    (harrives : ∀ p out, s.Brings p out → Rules.OnWay v s.inline.value key out → s.Arrives p out)
    {message : Json} (h : (key, message) ∈ Rules.messages s.inline.value) :
    ∃ holder ms w q, s.HoldsMessages holder ∧ holder.value = .obj ms ∧ (key, w) ∈ ms ∧
      q.origin = { holder with value := w } ∧ s.Brings q message := by
  obtain ⟨components, messages, ns, hcomponents, hmessages, rfl, hmem⟩ :
      ∃ components messages ns, s.inline.value.get? "components" = some components ∧
        components.get? "messages" = some messages ∧ messages = .obj ns ∧ (key, message) ∈ ns := by
    rw [Rules.messages] at h
    cases hc : s.inline.value.get? "components" with
    | none =>
      rw [hc] at h
      cases h
    | some components =>
      rw [hc, Option.bind_some] at h
      cases hm : components.get? "messages" with
      | none =>
        rw [hm] at h
        cases h
      | some messages =>
        rw [hm, Option.bind_some] at h
        cases messages with
        | obj ns => exact ⟨components, .obj ns, ns, rfl, hm, rfl, h⟩
        | _ => cases h
  obtain ⟨c, hc, hbc⟩ :=
    (harrives _ _ (brings_start hclean) .document).under (by decide) hcomponents
  obtain ⟨m, hm, hbm⟩ := (harrives _ _ hbc (.components hcomponents)).under (by decide) hmessages
  obtain ⟨q, hleaps, hq⟩ := harrives _ _ hbm (.messages hcomponents hmessages)
  have hholds : s.HoldsMessages q.origin := ⟨c.origin, m.origin, hc, hm, hleaps⟩
  obtain ⟨n, ms, hvalue, hall⟩ := hq.exists_members hleaps.2
  obtain ⟨⟨k, w⟩, hw, hk, hin⟩ := forall₂_mem_right hall hmem
  cases hk
  exact ⟨q.origin, ms, w, { q with value := w }, hholds, hvalue, hw, rfl,
    hq.member hvalue hleaps.2 hw (Or.inr hholds) ⟨n, hin⟩⟩

/-- The payload that a message declares was declared in a raw document. -/
theorem exists_declares {v : Version} {key : String} (hclean : s.inline.findings = [])
    (harrives : ∀ p out, s.Brings p out → Rules.OnWay v s.inline.value key out → s.Arrives p out)
    {message : Members} {payload : Json}
    (h : (key, .obj message) ∈ Rules.messages s.inline.value)
    (hpayload : (Rules.declared v key message).payload = some payload) :
    ∃ p, s.Declares v key p.origin ∧ s.Brings p payload := by
  obtain ⟨holder, ms, w, q, hholds, hvalue, hmem, hqo, hq⟩ :=
    exists_message hclean harrives h
  have hmessage := harrives _ _ hq (.message h)
  have hgiven : ∀ x, Members.get? message "payload" = some x →
      ∃ p, s.Under { holder with value := w } "payload" p.origin ∧ s.Brings p x := by
    intro x hx
    have hpayload : (Json.obj message).get? "payload" = some x := hx
    obtain ⟨p, hunder, hp⟩ := hmessage.under (by decide) hpayload
    exact ⟨p, hqo ▸ hunder, hp⟩
  rw [Rules.declared] at hpayload
  split at hpayload
  · next hv =>
    cases hx : Members.get? message "payload" with
    | none =>
      rw [hx] at hpayload
      cases hpayload
    | some x =>
      obtain ⟨p, hunder, hp⟩ := hgiven x hx
      have hthere := harrives p x hp (.payload hv h hx)
      have hmultiFormat := hthere.multiFormat?_isSome fun q f hf hfound =>
        harrives q f hf (.format hv h hx hfound)
      rw [hx, Option.bind_some] at hpayload
      cases hmulti : Rules.multiFormat? x with
      | none =>
        rw [hmulti] at hpayload
        obtain rfl := Option.some.inj hpayload
        refine ⟨p, ⟨holder, ms, w, p.origin, hholds, hvalue, hmem, hunder, Or.inr ⟨?_, rfl⟩⟩, hp⟩
        rintro ⟨_, hformat⟩
        rw [← hmultiFormat, hmulti] at hformat
        cases hformat
      | some fs =>
        obtain ⟨format, schema⟩ := fs
        rw [hmulti] at hpayload
        obtain rfl := Option.some.inj hpayload
        have hformat := hmultiFormat.1 (by rw [hmulti]; rfl)
        have hschema : x.get? "schema" = some schema := by
          rw [Rules.multiFormat?] at hmulti
          split at hmulti
          · next heq =>
            obtain ⟨_, rfl⟩ := Prod.mk.inj (Option.some.inj hmulti)
            exact heq
          · cases hmulti
        obtain ⟨p', hunder', hp'⟩ := hthere.under (by decide) hschema
        exact ⟨p', ⟨holder, ms, w, p.origin, hholds, hvalue, hmem, hunder,
          Or.inl ⟨⟨hv, hformat⟩, hunder'⟩⟩, hp'⟩
  · next hv =>
    obtain ⟨p, hunder, hp⟩ := hgiven payload hpayload
    exact ⟨p, ⟨holder, ms, w, p.origin, hholds, hvalue, hmem, hunder,
      Or.inr ⟨fun h => hv h.1, rfl⟩⟩, hp⟩

end Sources

namespace Parse.Accepted

variable {w : World} {settings : FetchSettings} {options : ParseOptions} {location : Location}
  {raw : Json} {d : Document}

theorem findsAll_of_direct (h : Accepted w settings options location raw d)
    (hdirect : (w.sources settings raw location).Direct) :
    (w.sources settings raw location).FindsAll :=
  fun _ _ hp hr => hdirect.found h.loaded hp hr

/-- In a tidy document that was accepted the references of every point find their documents. -/
theorem findsAll (h : Accepted w settings options location raw d)
    (htidy : (w.sources settings raw location).Tidy) :
    (w.sources settings raw location).FindsAll :=
  h.findsAll_of_direct htidy.direct

/-- The payload of an accepted message was converted from what came out of its declaration. -/
theorem exists_declared_payload (h : Accepted w settings options location raw d) {m : Message}
    (harrives : ∀ p out, (w.sources settings raw location).Brings p out →
      Rules.OnWay d.version d.json m.key out → (w.sources settings raw location).Arrives p out)
    (hm : m ∈ d.messages) {schema : Json} (hschema : m.payload = some schema) :
    ∃ message p x f, (m.key, .obj message) ∈ Rules.messages d.json ∧
      (Rules.declared d.version m.key message).payload = some x ∧
      (w.sources settings raw location).Declares d.version m.key p.origin ∧
      (w.sources settings raw location).Brings p x ∧
      options.formats.find? m.schemaFormat = some f ∧ f.convert x = .ok schema := by
  obtain ⟨key, message, hmem, hbuild⟩ := h.exists_declared hm
  obtain ⟨rfl, _, _, hpayload⟩ := Rules.buildMessage_ok hbuild
  rcases hpayload with ⟨_, hnone⟩ | ⟨x, f, schema', hx, hf, hconvert, hsome, _⟩
  · rw [hschema] at hnone
    cases hnone
  · obtain rfl := Option.some.inj (hschema.symm.trans hsome)
    rw [h.json] at hmem harrives
    obtain ⟨p, hdeclares, hp⟩ := Sources.exists_declares h.inlined harrives hmem hx
    exact ⟨message, p, x, f, h.json ▸ hmem, hx, hdeclares, hp, hf, hconvert⟩

theorem exists_declares (h : Accepted w settings options location raw d)
    (htidy : (w.sources settings raw location).Tidy) {m : Message} (hm : m ∈ d.messages)
    {schema : Json} (hschema : m.payload = some schema) :
    ∃ p x f, (w.sources settings raw location).Declares d.version m.key p.origin ∧
      (w.sources settings raw location).Brings p x ∧
      options.formats.find? m.schemaFormat = some f ∧ f.convert x = .ok schema := by
  obtain ⟨_, p, x, f, _, _, hdeclares, hp, hf, hconvert⟩ := h.exists_declared_payload
    (fun p out hp _ => hp.arrives htidy (h.findsAll htidy)) hm hschema
  exact ⟨p, x, f, hdeclares, hp, hf, hconvert⟩

end Parse.Accepted
end MessageContract
