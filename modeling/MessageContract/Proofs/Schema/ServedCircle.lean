import MessageContract.Proofs.Schema.Circle
import MessageContract.Proofs.Schema.Simulation

/-!
# Circles before and after inlining

Inlining neither closes a circle of schemas nor opens one. What comes out of a raw schema hands its
value on as the raw schema does, through as many references as were followed there
(`Sources.Serves.of_hands`), and it keeps up with the raw schema, which follows only so many of
them before it does something else (`Sources.Serves.exists_hands`). So there are circles in what
comes out if and only if there were some before (`Sources.Serves.circular_iff`).
-/

namespace MessageContract

open Draft7 (Hands Reaches Circular Ends Rule)

/-! ## Finitely many schemas -/

/-- Finitely many values stand in a value. -/
theorem Json.finite_holds (v : Json) : {w | v.Holds w}.Finite := by
  induction v using Json.children_induction with
  | _ v ih =>
    refine ((Set.finite_singleton v).union
      (Set.Finite.biUnion (List.finite_toSet v.children) ih)).subset ?_
    intro w hw
    rcases Json.holds_iff.1 hw with rfl | ⟨u, hu, huw⟩
    · exact Or.inl rfl
    · exact Or.inr (Set.mem_biUnion hu huw)

/-- A schema in a schema object stands in one of its members. -/
theorem Draft7.Part.exists_child {ms : Members} {k : String} {x : Json}
    (h : Draft7.Part (Members.get? ms) k x) : ∃ w ∈ (Json.obj ms).children, w.Holds x := by
  have hchild : ∀ {y}, Members.get? ms k = some y → y ∈ (Json.obj ms).children :=
    fun hy => List.mem_map.2 ⟨_, Members.mem_of_get? hy, rfl⟩
  cases h with
  | value hx => exact ⟨x, hchild hx, Json.Holds.refl x⟩
  | item hxs hx => exact ⟨_, hchild hxs, (Json.Holds.refl x).child hx⟩
  | entry _ hes hx =>
    exact ⟨_, hchild hes, (Json.Holds.refl x).child (List.mem_map.2 ⟨_, hx, rfl⟩)⟩

theorem Draft7.Part.holds {ms : Members} {k : String} {x : Json}
    (h : Draft7.Part (Members.get? ms) k x) : (Json.obj ms).Holds x := by
  obtain ⟨w, hw, hx⟩ := h.exists_child
  exact hx.child hw

theorem Draft7.exists_part_of_inside {ms : Members} {rule : Rule Json} {x : Json}
    (hrule : rule ∈ Draft7.rules (Members.get? ms)) (hx : x ∈ rule.inside) :
    ∃ k, Draft7.Part (Members.get? ms) k x :=
  Sources.exists_part hrule (List.mem_append.1 hx)

namespace Served

variable {document : Json}

/-- The schemas that are reached stand in the first one or in the document. -/
theorem holds_of_reaches {a b : Place × Json} (h : Reaches (resolve document) a b) :
    b.1 = a.1 ∧ a.2.Holds b.2 ∨ b.1 = .document ∧ document.Holds b.2 := by
  induction h with
  | refl => exact Or.inl ⟨rfl, Json.Holds.refl _⟩
  | tail _ hstep ih =>
    cases hstep with
    | reference _ hb => exact Or.inr (resolve_holds hb)
    | part _ hrule hx =>
      obtain ⟨k, hk⟩ := Draft7.exists_part_of_inside hrule hx
      exact ih.imp (And.imp_right fun hc => hc.trans hk.holds)
        (And.imp_right fun hc => hc.trans hk.holds)

theorem finite_reaches (document : Json) (a : Place × Json) :
    {b | Reaches (resolve document) a b}.Finite := by
  refine (((Json.finite_holds a.2).image (Prod.mk a.1)).union
    ((Json.finite_holds document).image (Prod.mk Place.document))).subset ?_
  rintro ⟨place, v⟩ hb
  rcases holds_of_reaches hb with ⟨rfl, hv⟩ | ⟨rfl, hv⟩
  · exact Or.inl ⟨v, hv, rfl⟩
  · exact Or.inr ⟨v, hv, rfl⟩

end Served

namespace Sources

variable {s : Sources} {t : Idiom} {choice : Rule Json → List Json}

/-- What inlining comes to. -/
def IsMet (s : Sources) (o : Origin) : Prop := ∃ p, s.Meets s.start p ∧ p.origin = o

theorem finite_isMet (s : Sources) : {o | s.IsMet o}.Finite := by
  refine (Set.Finite.biUnion (List.finite_toSet s.documents)
    fun d _ => (Json.finite_holds d.2).image (Origin.mk d.1)).subset ?_
  rintro o ⟨p, hp, rfl⟩
  obtain ⟨d, hd, hbase, hholds⟩ := hp.stands s.stands_start
  exact Set.mem_biUnion hd ⟨p.value, hholds, by rw [hbase]; rfl⟩

/-! ## Schemas and what comes out of them -/

theorem hands_of_refers {o o' : Origin} (h : s.Refers o o') :
    Hands s.resolve choice (o.base, o.value) (o'.base, o'.value) := by
  obtain ⟨r, hr, hx⟩ := h
  exact .reference hr hx

theorem applies_of_hands (hchoice : Rule.IsChoice choice) {a b : Location × Json}
    (h : Hands s.resolve choice a b) : s.Applies ⟨a.1, a.2⟩ ⟨b.1, b.2⟩ := by
  cases h with
  | reference hr hb => exact .refers ⟨_, hr, hb⟩
  | part hplain hrule hx =>
    exact .part rfl hplain hrule (List.mem_append.1 (hchoice.inside _ hx))

/-- Something comes out at a point where a schema stands. -/
structure Serves (s : Sources) (t : Idiom) (n : Nat) (p : Point) (out : Json) : Prop where
  meets : s.Meets s.start p
  schematic : s.Schematic t p.origin
  inlines : s.Inlines n p.stack p.base p.value out

/-- What is read beside the served document came out of a raw schema. -/
def ComesTo (s : Sources) (t : Idiom) (n : Nat) (a : Served.Place × Json) (b : Location × Json) :
    Prop :=
  ∃ place p out, a = (place, Served.dress place out) ∧ b = (p.base, p.value) ∧ s.Serves t n p out

namespace Serves

variable {n : Nat} {p : Point} {out : Json}

/-- The schemas in a schema object come out beside each other. -/
theorem part (h : s.Serves t n p out) {ms : Members} (hv : p.value = .obj ms)
    (hr : p.value.reference? = none) {rule : Rule Json}
    (hrule : rule ∈ Draft7.rules (Members.get? ms)) {x : Json} (hx : x ∈ rule.inside) :
    s.Serves t n { p with value := x } (s.inlined n p.stack p.base x) := by
  obtain ⟨k, hk⟩ := Draft7.exists_part_of_inside hrule hx
  obtain ⟨hmeets, hin⟩ := meets_part hv hr h.schematic.self hk h.inlines
  exact ⟨Relation.ReflTransGen.trans h.meets hmeets,
    h.schematic.applies (Applies.part hv hr hrule (List.mem_append.1 hx)), hin⟩

/-- The rules of a schema object are about what came out of the schemas in it. -/
theorem exists_rules (h : s.Serves t n p out) {ms : Members} (hv : p.value = .obj ms)
    (hr : p.value.reference? = none) (place : Served.Place) :
    ∃ ns, Served.dress place out = .obj ns ∧ (Json.obj ns).reference? = none ∧
      Draft7.rules (Members.get? ns) =
        (Draft7.rules (Members.get? ms)).map (·.map (s.dressed place n p.stack p.base)) := by
  obtain ⟨ns, hns, hbecomes⟩ := exists_becomes hv hr h.schematic h.inlines place
  exact ⟨ns, hns, hbecomes.plain, Draft7.rules_replaced hbecomes.replaces⟩

/-- What comes out at the end of the references is no reference, or leads back. -/
theorem exists_end (h : s.Serves t n p out) (hfinds : s.FindsAll) :
    ∃ m q, s.Serves t m q out ∧ Relation.ReflTransGen s.Refers p.origin q.origin ∧
      (q.value.reference? = none ∨ ∃ r u v, s.Keeps q r u v) := by
  obtain ⟨q, m, hq, hm, hend⟩ := h.inlines.exists_leads
  have hmeets : s.Meets s.start q := Relation.ReflTransGen.trans h.meets (meets_of_leads hq)
  refine ⟨m, q, ⟨hmeets, h.schematic.leads hq, hm⟩, refers_of_leads hq, ?_⟩
  rcases hend with hplain | ⟨r, hr, hnone⟩ | hk
  · exact Or.inl hplain
  · exact absurd hnone (hfinds q r hmeets hr)
  · exact Or.inr hk

/-- What comes out of a schema hands its value on as the schema does, in one or more steps. -/
theorem of_hands (h : s.Serves t n p out) (hclean : s.inline.findings = []) (hdirect : s.Direct)
    (hfinds : s.FindsAll) (hchoice : Rule.IsChoice choice) {place : Served.Place}
    {b : Served.Place × Json}
    (hb : Hands (Served.resolve s.inline.value) choice (place, Served.dress place out) b) :
    ∃ place' m q y, b = (place', Served.dress place' y) ∧ s.Serves t m q y ∧
      Relation.TransGen (Hands s.resolve choice) (p.base, p.value) (q.base, q.value) := by
  obtain ⟨m, q, hq, hrefers, hend⟩ := h.exists_end hfinds
  have hsteps : Relation.ReflTransGen (Hands s.resolve choice) (p.base, p.value)
      (q.base, q.value) :=
    hrefers.lift (fun o : Origin => (o.base, o.value)) fun _ _ => hands_of_refers
  rcases hend with hplain | ⟨r, u, v, hk⟩
  · by_cases hobj : ∃ ms, q.value = .obj ms
    · obtain ⟨ms, hv⟩ := hobj
      obtain ⟨ns, hns, hnr, hrules⟩ := hq.exists_rules hv hplain place
      rw [hns] at hb
      obtain ⟨ns', heq, rule', hrule', x', hx', rfl⟩ := Draft7.hands_plain hnr hb
      obtain rfl := Json.obj.inj heq
      rw [hrules] at hrule'
      obtain ⟨rule, hrule, rfl⟩ := List.mem_map.1 hrule'
      rw [hchoice.map] at hx'
      obtain ⟨x, hx, rfl⟩ := List.mem_map.1 hx'
      refine ⟨place, m, { q with value := x }, _, rfl,
        hq.part hv hplain hrule (hchoice.inside rule hx), Relation.TransGen.tail' hsteps ?_⟩
      exact hv ▸ .part (hv ▸ hplain) hrule hx
    · exact absurd hb (Draft7.not_hands
        (hq.inlines.dress_ne_obj hplain fun ms hv => hobj ⟨ms, hv⟩))
  · obtain ⟨r', y, hr', hresolve, hlocation, hmeets, hy⟩ :=
      hk.exists_image hclean hdirect hq.meets place
    rw [hq.inlines.eq_backEdge hk] at hb
    obtain rfl := Option.some.inj (hresolve.symm.trans (Draft7.hands_reference hr' hb))
    have hrefers : s.Refers q.origin ⟨s.location, v⟩ := hlocation ▸ hk.refers
    exact ⟨.document, s.bound, ⟨[], s.location, v⟩, y, rfl,
      ⟨hmeets, hq.schematic.refers hrefers, hy⟩,
      Relation.TransGen.tail' hsteps (hands_of_refers hrefers)⟩

/-- What comes out of a schema keeps up with it, but where a reference was followed it stays the
same. -/
theorem exists_hands (h : s.Serves t n p out) (hclean : s.inline.findings = [])
    (hdirect : s.Direct) (hfinds : s.FindsAll) (hchoice : Rule.IsChoice choice)
    (place : Served.Place) {b : Location × Json}
    (hb : Hands s.resolve choice (p.base, p.value) b) :
    ∃ m q y, (q.base, q.value) = b ∧ s.Serves t m q y ∧ (y = out ∧ m < n ∨ ∃ place',
      Hands (Served.resolve s.inline.value) choice (place, Served.dress place out)
        (place', Served.dress place' y)) := by
  cases hr : p.value.reference? with
  | some r =>
    have hx := Draft7.hands_reference hr hb
    obtain ⟨q, m, y, hq, hqo, hy, hend⟩ :=
      dressed_reference hclean hdirect hfinds h.meets hr h.inlines hx place
    have hqb : (q.base, q.value) = b :=
      Prod.ext (congrArg Origin.base hqo) (congrArg Origin.value hqo)
    have hqs : s.Schematic t q.origin := h.schematic.refers ⟨r, hr, hqo ▸ hx⟩
    refine ⟨m, q, y, hqb, ⟨hq, hqs, hy⟩, hend.imp (And.imp_left Eq.symm) ?_⟩
    rintro ⟨r', _, hr', hresolve⟩
    exact ⟨.document, .reference hr' hresolve⟩
  | none =>
    obtain ⟨ms, hv, rule, hrule, x, hx, rfl⟩ := Draft7.hands_plain hr hb
    obtain ⟨ns, hns, hnr, hrules⟩ := h.exists_rules hv hr place
    refine ⟨n, { p with value := x }, _, rfl, h.part hv hr hrule (hchoice.inside rule hx),
      Or.inr ⟨place, ?_⟩⟩
    have hrule' : rule.map (s.dressed place n p.stack p.base) ∈ Draft7.rules (Members.get? ns) := by
      rw [hrules]
      exact List.mem_map.2 ⟨rule, hrule, rfl⟩
    rw [hns]
    refine .part hnr hrule' ?_
    rw [hchoice.map]
    exact List.mem_map.2 ⟨x, hx, rfl⟩

/-- A raw schema reaches only schemas that inlining comes to. -/
theorem exists_reached (h : s.Serves t n p out) (hclean : s.inline.findings = [])
    (hdirect : s.Direct) (hfinds : s.FindsAll) {b : Location × Json}
    (hb : Reaches s.resolve (p.base, p.value) b) :
    ∃ m q y, (q.base, q.value) = b ∧ s.Serves t m q y := by
  induction hb with
  | refl => exact ⟨n, p, out, rfl, h⟩
  | tail _ hstep ih =>
    obtain ⟨m, q, y, rfl, hq⟩ := ih
    obtain ⟨m', q', y', hb', hq', _⟩ :=
      hq.exists_hands hclean hdirect hfinds Rule.isChoice_inside .document hstep
    exact ⟨m', q', y', hb', hq'⟩

theorem finite_reaches (h : s.Serves t n p out) (hclean : s.inline.findings = [])
    (hdirect : s.Direct) (hfinds : s.FindsAll) :
    {b | Reaches s.resolve (p.base, p.value) b}.Finite := by
  refine (s.finite_isMet.image fun o => (o.base, o.value)).subset fun b hb => ?_
  obtain ⟨_, q, _, rfl, hq⟩ := h.exists_reached hclean hdirect hfinds hb
  exact ⟨q.origin, ⟨q, hq.meets, rfl⟩, rfl⟩

/-- Checking ends with what came out of a schema if and only if it ends with the schema. -/
theorem ends_iff (h : s.Serves t n p out) (hclean : s.inline.findings = [])
    (hdirect : s.Direct) (hfinds : s.FindsAll) (hchoice : Rule.IsChoice choice)
    (place : Served.Place) :
    Ends (Served.resolve s.inline.value) choice (place, Served.dress place out) ↔
      Ends s.resolve choice (p.base, p.value) := by
  have hstart : s.ComesTo t n (place, Served.dress place out) (p.base, p.value) :=
    ⟨place, p, out, rfl, rfl, h⟩
  constructor
  · refine Draft7.ends_of_lags (fun choice hchoice n a b hR b' hb' => ?_) hchoice hstart
    obtain ⟨place, p, out, rfl, rfl, h⟩ := hR
    obtain ⟨m, q, y, rfl, hq, ⟨rfl, hlt⟩ | ⟨place', hstep⟩⟩ :=
      h.exists_hands hclean hdirect hfinds hchoice place hb'
    · exact ⟨m, _, ⟨place, q, y, rfl, rfl, hq⟩, Or.inl ⟨rfl, hlt⟩⟩
    · exact ⟨m, _, ⟨place', q, y, rfl, rfl, hq⟩, Or.inr hstep⟩
  · refine Draft7.ends_of_follows (R := fun a b => ∃ n, s.ComesTo t n a b)
      (fun choice hchoice a b hR a' ha' => ?_) hchoice ⟨n, hstart⟩
    obtain ⟨n, place, p, out, rfl, rfl, h⟩ := hR
    obtain ⟨place', m, q, y, rfl, hq, hsteps⟩ := h.of_hands hclean hdirect hfinds hchoice ha'
    exact ⟨_, ⟨m, place', q, y, rfl, rfl, hq⟩, hsteps⟩

/-- There is a circle in what came out of a schema if and only if there is one in the schema. -/
theorem circular_iff (h : s.Serves t n p out) (hclean : s.inline.findings = [])
    (hdirect : s.Direct) (hfinds : s.FindsAll) (hchoice : Rule.IsChoice choice)
    (place : Served.Place) :
    Circular (Served.resolve s.inline.value) choice (place, Served.dress place out) ↔
      Circular s.resolve choice (p.base, p.value) := by
  have hserved := Draft7.ends_iff_not_circular hchoice
    (Served.finite_reaches s.inline.value (place, Served.dress place out))
  have hraw := Draft7.ends_iff_not_circular hchoice (h.finite_reaches hclean hdirect hfinds)
  exact not_iff_not.1 (hserved.symm.trans
    ((h.ends_iff hclean hdirect hfinds hchoice place).trans hraw))

/-! ## Verdicts -/

/-- What comes out of a schema leads somewhere, and has no name. -/
theorem isSound (h : s.Serves t n p out) (hclean : s.inline.findings = [])
    (hdirect : s.Direct) (hfinds : s.FindsAll) (place : Served.Place) :
    Draft7.IsSound (Served.resolve s.inline.value) (place, Served.dress place out) := by
  obtain ⟨m, q, hq, _, hplain | ⟨r, u, v, hk⟩⟩ := h.exists_end hfinds
  · by_cases hobj : ∃ ms, q.value = .obj ms
    · obtain ⟨ms, hv⟩ := hobj
      obtain ⟨ns, hns, hbecomes⟩ := exists_becomes hv hplain hq.schematic hq.inlines place
      rw [hns]
      refine ⟨fun r hr => ?_, fun ns' heq _ => ?_⟩
      · rw [hbecomes.plain] at hr
        cases hr
      · cases heq
        exact hbecomes.noId
    · have hne : ∀ ns, Served.dress place out ≠ .obj ns :=
        hq.inlines.dress_ne_obj hplain fun ms hv => hobj ⟨ms, hv⟩
      refine ⟨fun r hr => ?_, fun ns heq _ => absurd heq (hne ns)⟩
      obtain ⟨ns, heq⟩ := reference?_obj hr
      exact absurd heq (hne ns)
  · obtain ⟨r', y, hr', hresolve, _⟩ := hk.exists_image hclean hdirect hq.meets place
    rw [hq.inlines.eq_backEdge hk]
    refine ⟨fun r hr => ?_, fun ns _ hr => ?_⟩
    · obtain rfl := Option.some.inj (hr'.symm.trans hr)
      exact ⟨_, hresolve⟩
    · rw [hr'] at hr
      cases hr

/-- If a schema goes in no circle, what came out of it has a verdict on every value. -/
theorem exists_verdict (h : s.Serves t n p out) (hclean : s.inline.findings = [])
    (hdirect : s.Direct) (hfinds : s.FindsAll)
    (hcircle : ¬ Circular s.resolve Rule.inPlace (p.base, p.value)) (idiom : Idiom)
    (place : Served.Place) (v : Json) :
    ∃ b, (idiom.reading (Served.resolve s.inline.value)).Verdict place (Served.dress place out)
      v b := by
  refine Draft7.exists_verdict_of_ends (r := idiom.reading (Served.resolve s.inline.value))
    (a := (place, Served.dress place out)) (fun b hb => ?_) ?_ v
  · have hreached : ∃ n, ∃ c, s.ComesTo t n b c := by
      induction hb with
      | refl => exact ⟨n, _, place, p, out, rfl, rfl, h⟩
      | tail _ hstep ih =>
        obtain ⟨n, _, place, p, out, rfl, rfl, hp⟩ := ih
        obtain ⟨place', m, q, y, rfl, hq, _⟩ :=
          hp.of_hands hclean hdirect hfinds Rule.isChoice_inside hstep
        exact ⟨m, _, place', q, y, rfl, rfl, hq⟩
    obtain ⟨m, _, place', q, y, rfl, rfl, hq⟩ := hreached
    exact hq.isSound hclean hdirect hfinds place'
  · have hraw := Draft7.ends_iff_not_circular Rule.isChoice_inPlace
      (h.finite_reaches hclean hdirect hfinds)
    exact (h.ends_iff hclean hdirect hfinds Rule.isChoice_inPlace place).2 (hraw.2 hcircle)

end Serves

end Sources
end MessageContract
