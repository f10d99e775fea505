import MessageContract.Proofs.Acceptance
import MessageContract.Proofs.Reference.Point

/-!
# References to other documents that are left

A reference to another document is left in what comes out at three kinds of points
(`Sources.Leaves`): its document was never loaded, since loading does not look into reference
objects; it stands beside a reference that stays as an edge back; or inlining puts its text where a
reference object had been under `$ref`. There is one in an accepted document if and only if inlining
gets to such a point, and there is none if no document has references inside reference objects.
-/

namespace MessageContract

/-- Some object in the value has a reference object under `$ref`. -/
def Json.NestsReference (v : Json) : Prop :=
  ∃ ms h r, v.Holds (.obj ms) ∧ Members.get? ms "$ref" = some h ∧ h.reference? = some r

namespace Sources

/-- A reference to another document is left at a point. -/
inductive Leaves (s : Sources) (p : Point) : Prop
  | unfound {r : String} (reference : p.value.reference? = some r)
      (absent : s.find? p.base (Reference.document r) = none)
  | beside {r : String} {t : Target} {v w : Json} (kept : s.Keeps p r t v)
      (child : w ∈ p.value.children) (external : w.HasExternal)
  | made {ms : Members} {h : Json} {q : Point} {r : String} (value : p.value = .obj ms)
      (plain : p.value.reference? = none) (nested : Members.get? ms "$ref" = some h)
      (leads : s.Leads { p with value := h } q) (text : q.value = .str r)
      (external : Reference.IsExternal r)

variable {s : Sources}

/-! ## Edges back -/

theorem not_hasExternal_str (text : String) : ¬ (Json.str text).HasExternal := by
  rw [Json.hasExternal_iff]
  rintro (⟨r, hr, _⟩ | ⟨w, hw, _⟩)
  · cases hr
  · cases hw

/-- In an edge back only what stands beside the reference is left. -/
theorem hasExternal_backEdge {h : Json} {r : String} (hr : h.reference? = some r)
    (pointer : String) :
    (backEdge pointer h).HasExternal ↔ ∃ w ∈ h.children, w.HasExternal := by
  rw [Json.hasExternal_iff, reference?_backEdge hr]
  obtain ⟨ms, rfl⟩ := reference?_obj hr
  constructor
  · rintro (⟨r', hr', hx⟩ | ⟨w, hw, hx⟩)
    · rw [← Option.some.inj hr', Reference.IsExternal, Reference.document_hash] at hx
      cases hx
    · obtain ⟨m, hm, rfl⟩ := List.mem_map.1 hw
      rcases Members.mem_insert hm with rfl | hm
      · exact absurd hx (not_hasExternal_str _)
      · exact ⟨m.2, List.mem_map.2 ⟨m, hm, rfl⟩, hx⟩
  · rintro ⟨w, hw, hx⟩
    obtain ⟨m, hm, rfl⟩ := List.mem_map.1 hw
    rcases Members.mem_insert_of_mem hm "$ref" (.str ("#" ++ pointer)) with hm' | hm'
    · exact Or.inr ⟨m.2, List.mem_map.2 ⟨m, hm', rfl⟩, hx⟩
    · rw [get?_of_reference? hr] at hm'
      rw [← Option.some.inj hm'] at hx
      exact absurd hx (not_hasExternal_str _)

/-! ## Texts -/

/-- A text comes out where references lead to a text, and nowhere else. -/
theorem Inlines.str_iff {fuel : Nat} {stack : List Target} {base : Location} {v out : Json}
    (h : s.Inlines fuel stack base v out) (text : String) :
    out = .str text ↔ ∃ q, s.Leads ⟨stack, base, v⟩ q ∧ q.value = .str text := by
  have hp : s.Inlines fuel (⟨stack, base, v⟩ : Point).stack base v out := h
  constructor
  · rintro rfl
    obtain ⟨q, n, hq, hin, hplain | ⟨r, hr, hnone⟩ | ⟨r, t, w, hk⟩⟩ := hp.exists_leads
    · refine ⟨q, hq, ?_⟩
      cases hv : q.value with
      | obj ms =>
        obtain ⟨_, hout, _⟩ := inlines_obj (hv ▸ hplain) (hv ▸ hin)
        cases hout
      | arr xs =>
        obtain ⟨_, hout, _⟩ := inlines_arr (hv ▸ hin)
        cases hout
      | _ => exact (inlines_leaf ⟨by simp, by simp⟩ (hv ▸ hin)).symm
    -- a reference that is not followed leaves an object
    · obtain ⟨ms, hms⟩ := reference?_obj hr
      rcases inlines_reference hr hin with ⟨_, hout⟩ | ⟨_, _, ht, _⟩ | ⟨_, _, _, ht, _⟩
      · rw [hms] at hout
        cases hout
      · exact absurd hnone (find?_of_target? ht)
      · exact absurd hnone (find?_of_target? ht)
    · obtain ⟨ms, hms⟩ := reference?_obj hk.reference
      have hout := hin.eq_backEdge hk
      rw [hms] at hout
      cases hout
  · rintro ⟨q, hq, htext⟩
    obtain ⟨n, hn⟩ := hp.of_leads hq
    rw [htext] at hn
    exact inlines_leaf ⟨by simp, by simp⟩ hn

/-! ## What is left -/

/-- At a value that is no reference object only a text put under `$ref` is left. -/
theorem leaves_plain {p : Point} (hr : p.value.reference? = none) :
    s.Leaves p ↔ ∃ ms h q r, p.value = .obj ms ∧ Members.get? ms "$ref" = some h ∧
      s.Leads { p with value := h } q ∧ q.value = .str r ∧ Reference.IsExternal r := by
  constructor
  · intro hl
    cases hl with
    | unfound href _ => exact absurd href (by simp [hr])
    | beside hk _ _ => exact absurd hk.reference (by simp [hr])
    | made hval _ hget hleads htext hx => exact ⟨_, _, _, _, hval, hget, hleads, htext, hx⟩
  · rintro ⟨ms, h, q, r, hval, hget, hleads, htext, hx⟩
    exact .made hval hr hget hleads htext hx

/-- At a reference that is entered nothing is left. -/
theorem not_leaves_of_enters {p q : Point} (he : s.Enters p q) : ¬ s.Leaves p := by
  obtain ⟨hr, ht, hfresh⟩ := he
  intro hl
  cases hl with
  | unfound href hnone =>
    rw [← Option.some.inj (hr.symm.trans href)] at hnone
    exact absurd hnone (find?_of_target? ht)
  | beside hk _ _ =>
    obtain ⟨href, ht', hany, _⟩ := hk
    obtain rfl := Option.some.inj (hr.symm.trans href)
    rw [← (target?_unique ht ht').1] at hany
    exact absurd hany (by simp [hfresh])
  | made _ hplain _ _ _ _ => exact absurd hr (by simp [hplain])

/-- At an edge back only what stands beside the reference is left. -/
theorem leaves_of_keeps {p : Point} {r : String} {t : Target} {v : Json} (hk : s.Keeps p r t v) :
    s.Leaves p ↔ ∃ w ∈ p.value.children, w.HasExternal := by
  constructor
  · intro hl
    cases hl with
    | unfound href hnone =>
      rw [← Option.some.inj (hk.reference.symm.trans href)] at hnone
      exact absurd hnone (find?_of_target? hk.target)
    | beside _ hw hx => exact ⟨_, hw, hx⟩
    | made _ hplain _ _ _ _ => exact absurd hk.reference (by simp [hplain])
  · rintro ⟨w, hw, hx⟩
    exact .beside hk hw hx

theorem exists_leaves_plain {p : Point} (hr : p.value.reference? = none) :
    (∃ q, s.Meets p q ∧ s.Leaves q) ↔
      s.Leaves p ∨ ∃ w ∈ p.value.children, ∃ q, s.Meets { p with value := w } q ∧ s.Leaves q := by
  constructor
  · rintro ⟨q, hq, hl⟩
    rcases meets_plain hr hq with rfl | ⟨w, hw, hwq⟩
    · exact Or.inl hl
    · exact Or.inr ⟨w, hw, q, hwq, hl⟩
  · rintro (hl | ⟨w, hw, q, hwq, hl⟩)
    · exact ⟨p, Meets.refl p, hl⟩
    · exact ⟨q, hwq.part hr hw, hl⟩

theorem exists_leaves_of_enters {p p' : Point} (he : s.Enters p p') :
    (∃ q, s.Meets p q ∧ s.Leaves q) ↔ ∃ q, s.Meets p' q ∧ s.Leaves q := by
  constructor
  · rintro ⟨q, hq, hl⟩
    obtain ⟨hr, ht, hfresh⟩ := he
    rcases meets_reference hr hq with rfl | ⟨t', v', ht', _, hq'⟩
    · exact absurd hl (not_leaves_of_enters ⟨hr, ht, hfresh⟩)
    · obtain ⟨rfl, rfl⟩ := target?_unique ht ht'
      exact ⟨q, hq', hl⟩
  · rintro ⟨q, hq, hl⟩
    exact ⟨q, hq.enter he, hl⟩

theorem exists_leaves_of_keeps {p : Point} {r : String} {t : Target} {v : Json}
    (hk : s.Keeps p r t v) : (∃ q, s.Meets p q ∧ s.Leaves q) ↔ s.Leaves p := by
  constructor
  · rintro ⟨q, hq, hl⟩
    rcases meets_reference hk.reference hq with rfl | ⟨t', v', ht', hfresh, _⟩
    · exact hl
    · have hany := hk.underWay
      rw [(target?_unique hk.target ht').1, hfresh] at hany
      cases hany
  · exact fun hl => ⟨p, Meets.refl p, hl⟩

/-- Inlining leaves a reference to another document if and only if it gets to a point where one is
left. -/
theorem Inlines.hasExternal_iff {fuel : Nat} {stack : List Target} {base : Location}
    {v out : Json} (h : s.Inlines fuel stack base v out)
    (hbase : (s.find? base "").isSome = true) :
    out.HasExternal ↔ ∃ p, s.Meets ⟨stack, base, v⟩ p ∧ s.Leaves p := by
  refine Inlines.induction (P := fun stack base v out => (s.find? base "").isSome = true →
    (out.HasExternal ↔ ∃ p, s.Meets ⟨stack, base, v⟩ p ∧ s.Leaves p)) ?_ ?_ ?_ ?_ ?_ ?_ h hbase
  · intro stack base v hv hr _
    rw [exists_leaves_plain (p := ⟨stack, base, v⟩) hr, leaves_plain (p := ⟨stack, base, v⟩) hr,
      Json.hasExternal_iff, hr, hv]
    refine iff_of_false (by simp) ?_
    rintro (⟨ms, _, _, _, rfl, hget, _⟩ | ⟨w, hw, _⟩)
    · rw [List.map_eq_nil_iff.1 hv] at hget
      cases hget
    · cases hw
  · intro stack base xs ys hall hb
    rw [exists_leaves_plain (p := ⟨stack, base, .arr xs⟩) rfl,
      leaves_plain (p := ⟨stack, base, .arr xs⟩) rfl, Json.hasExternal_iff]
    constructor
    · rintro (⟨r, hr, _⟩ | ⟨y, hy, hx⟩)
      · cases hr
      · obtain ⟨x, hxs, hxy⟩ := forall₂_mem_right hall hy
        exact Or.inr ⟨x, hxs, (hxy hb).1 hx⟩
    · rintro (⟨_, _, _, _, hval, _⟩ | ⟨x, hxs, hq⟩)
      · cases hval
      · obtain ⟨y, hy, hxy⟩ := forall₂_mem_left hall hxs
        exact Or.inr ⟨y, hy, (hxy hb).2 hq⟩
  · intro fuel stack base ms ns hr hin hall hb
    rw [exists_leaves_plain (p := ⟨stack, base, .obj ms⟩) hr,
      leaves_plain (p := ⟨stack, base, .obj ms⟩) hr, Json.hasExternal_iff]
    constructor
    · rintro (⟨r, href, hx⟩ | ⟨w, hw, hx⟩)
      · obtain ⟨h, hget, hinh⟩ := forall₂_get?_right hin (get?_of_reference? href)
        obtain ⟨q, hq, htext⟩ := (hinh.str_iff r).1 rfl
        exact Or.inl ⟨ms, h, q, r, rfl, hget, hq, htext, hx⟩
      · obtain ⟨n, hn, rfl⟩ := List.mem_map.1 hw
        obtain ⟨m, hm, _, hmn⟩ := forall₂_mem_right hall hn
        exact Or.inr ⟨m.2, List.mem_map.2 ⟨m, hm, rfl⟩, (hmn hb).1 hx⟩
    · rintro (⟨_, h, q, r, hval, hget, hleads, htext, hx⟩ | ⟨w, hw, hq⟩)
      · obtain rfl := Json.obj.inj hval
        obtain ⟨x, hgetx, hinh⟩ := forall₂_get? hin hget
        obtain rfl := (hinh.str_iff r).2 ⟨q, hleads, htext⟩
        exact Or.inl ⟨r, by rw [Json.reference?, hgetx], hx⟩
      · obtain ⟨m, hm, rfl⟩ := List.mem_map.1 hw
        obtain ⟨n, hn, _, hmn⟩ := forall₂_mem_left hall hm
        exact Or.inr ⟨n.2, List.mem_map.2 ⟨n, hn, rfl⟩, (hmn hb).2 hq⟩
  · intro stack base h r hr hnone hb
    refine iff_of_true ?_ ⟨⟨stack, base, h⟩, Meets.refl _, .unfound hr hnone⟩
    refine Json.hasExternal_iff.2 (Or.inl ⟨r, hr, ?_⟩)
    -- a reference into the document itself would have found it
    cases hempty : (Reference.document r).isEmpty with
    | false => exact hempty
    | true =>
      rw [find?_congr_of_isEmpty hempty] at hnone
      rw [hnone] at hb
      cases hb
  · intro stack base h r t v hr ht hany hroot _
    have hk : s.Keeps ⟨stack, base, h⟩ r t v := ⟨hr, ht, hany, hroot⟩
    rw [hasExternal_backEdge hr, exists_leaves_of_keeps hk, leaves_of_keeps hk]
  · intro stack base h r t v out hr ht hfresh ih _
    obtain ⟨d, hd, hloc, _⟩ := target?_mem ht
    rw [ih (by rw [← hloc]; exact find?_self hd),
      exists_leaves_of_enters (p := ⟨stack, base, h⟩) ⟨hr, ht, hfresh⟩]

/-! ## Documents without hidden references -/

/-- Where a reference to another document is left, a document hides one or has a reference object
under `$ref`. -/
theorem exists_hides_of_leaves {w : World} {settings : FetchSettings} {raw : Json}
    {location : Location} (hf : (w.loadReferences settings raw location).findings = [])
    {p : Point} (hp : (w.sources settings raw location).Stands p)
    (hl : (w.sources settings raw location).Leaves p) :
    ∃ e ∈ (w.sources settings raw location).documents,
      e.2.HidesExternal ∨ e.2.NestsReference := by
  obtain ⟨e, he, hbase, hholds⟩ := hp
  refine ⟨e, he, ?_⟩
  cases hl with
  | @unfound r hr hnone =>
    have hx : Reference.IsExternal r := by
      cases hempty : (Reference.document r).isEmpty with
      | false => exact hempty
      | true =>
        rw [find?_congr_of_isEmpty hempty, ← hbase] at hnone
        exact absurd (find?_self he) (by simp [hnone])
    by_contra hclean
    have hs := Json.sees_of_not_hidesExternal (fun h => hclean (Or.inl h)) hholds hr hx
    obtain ⟨site, hsite, rfl⟩ := Reference.exists_site_of_sees hs hr
    obtain ⟨target, hjoin, ht⟩ := World.exists_document_of_site hf he hsite hx
    have hfound := find?_of_join (s := w.sources settings raw location) hx hjoin ht
    rw [hbase, hnone] at hfound
    cases hfound
  | beside hk hw hx => exact Or.inl ⟨p.value, _, _, hholds, hk.reference, hw, hx⟩
  | @made ms h q r hval hr hget hleads htext _ =>
    rcases Relation.ReflTransGen.cases_head hleads with rfl | ⟨q', ⟨href, _, _⟩, _⟩
    · rw [hval, Json.reference?, hget, show h = .str r from htext] at hr
      cases hr
    · exact Or.inr ⟨ms, h, _, hval ▸ hholds, hget, href⟩

end Sources

/-- An accepted document holds a reference to another document if and only if inlining got to a
point where one is left, and then one of its documents hides such a reference or has a reference
object under `$ref`. -/
theorem Parse.document_hasExternal_iff {w : World} {settings : FetchSettings} {options : ParseOptions}
    {location : Location} {input : Input} {d : Document}
    (h : (run w settings options location input).document = some d) :
    ∃ raw, root input = .ok raw ∧
      (d.json.HasExternal ↔ ∃ p, (w.sources settings raw location).Meets
        (w.sources settings raw location).start p ∧ (w.sources settings raw location).Leaves p) ∧
      (d.json.HasExternal → ∃ e ∈ (w.sources settings raw location).documents,
        e.2.HidesExternal ∨ e.2.NestsReference) := by
  obtain ⟨raw, hraw, hacc⟩ := accepted_of_document h
  have hiff := (Sources.inlines_root hacc.inlined).hasExternal_iff
    (Sources.find?_self (s := w.sources settings raw location) List.mem_cons_self)
  have hjson : d.json = Sources.image _ (w.sources settings raw location).root := hacc.json
  rw [← hjson] at hiff
  refine ⟨raw, hraw, hiff, fun hx => ?_⟩
  obtain ⟨p, hp, hl⟩ := hiff.1 hx
  exact Sources.exists_hides_of_leaves hacc.loaded (hp.stands (Sources.stands_start _)) hl

/-- A value that refers to itself from inside. -/
def Json.recursive : Json :=
  .obj [("asyncapi", .str "3.0.0"), ("node", .obj [("next", .obj [("$ref", .str "#/node")])])]

theorem Parse.document_hasExternal_iff_recursive :
    ∃ d raw, (run .bare .default ⟨false, false, []⟩ .inline (.json .recursive)).document = some d ∧
      root (.json .recursive) = .ok raw ∧
      (d.json.HasExternal ↔ ∃ p, (World.bare.sources .default raw .inline).Meets
        (World.bare.sources .default raw .inline).start p ∧
          (World.bare.sources .default raw .inline).Leaves p) ∧
      (d.json.HasExternal → ∃ e ∈ (World.bare.sources .default raw .inline).documents,
        e.2.HidesExternal ∨ e.2.NestsReference) := by
  have hsome : (run .bare .default ⟨false, false, []⟩ .inline
      (.json .recursive)).document.isSome = true := by decide +kernel
  obtain ⟨d, hd⟩ := Option.isSome_iff_exists.1 hsome
  obtain ⟨raw, hraw, hiff, hhides⟩ := Parse.document_hasExternal_iff hd
  exact ⟨d, raw, hd, hraw, hiff, hhides⟩

/-- A reference whose pointer goes through a reference object, to a reference beside its `$ref`. -/
def Json.throughHolder : Json :=
  .obj [("asyncapi", .str "3.0.0"),
    ("info", .obj [("title", .str "t"), ("version", .str "1")]),
    ("components", .obj [("schemas", .obj
      [("a", .obj [("$ref", .str "#/components/schemas/b"),
        ("x", .obj [("$ref", .str "missing.yaml")])]),
       ("b", .obj [("type", .str "string")]),
       ("c", .obj [("$ref", .str "#/components/schemas/a/x")])])])]

theorem Parse.document_hasExternal_throughHolder :
    ∃ d, (run .bare .default .default .inline (.json .throughHolder)).document = some d ∧
      d.json.HasExternal := by
  have hleft : ((run .bare .default .default .inline (.json .throughHolder)).document.bind
      fun d => (d.json.pointer? "/components/schemas/c").bind Json.reference?) =
        some "missing.yaml" := by decide +kernel
  obtain ⟨d, hd, hr⟩ := Option.bind_eq_some_iff.1 hleft
  obtain ⟨h, hh, hr⟩ := Option.bind_eq_some_iff.1 hr
  exact ⟨d, hd, h, _, Json.holds_of_pointer hh, hr, by decide +kernel⟩

end MessageContract
