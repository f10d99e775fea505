import MessageContract.Proofs.Schema.ServedCircle

/-!
# Verdicts of raw schemas

In tidy documents a raw schema has a verdict on every value (`Sources.exists_verdict`). A schema is
linked to those that it hands its value on to, and links do not go in circles.
-/

namespace MessageContract.Sources

open Draft7 (Hands Reaches Circular Rule)

variable {s : Sources} {t : Idiom} {n : Nat} {p : Point} {out : Json}

/-- A schema that hands its value on is linked to the other. -/
theorem Serves.links (h : s.Serves t n p out) {b : Location × Json}
    (hb : Hands s.resolve Rule.inPlace (p.base, p.value) b) :
    Relation.TransGen s.Link p.origin ⟨b.1, b.2⟩ := by
  cases hr : p.value.reference? with
  | some r =>
    exact Relation.TransGen.single (Link.refers ⟨r, hr, Draft7.hands_reference hr hb⟩)
  | none =>
    obtain ⟨ms, hv, rule, hrule, x, hx, rfl⟩ := Draft7.hands_plain hr hb
    obtain ⟨k, hk, hpart⟩ := Draft7.part_of_inPlace rule hrule x hx
    exact links_of_part (o := p.origin) hv hr h.schematic.self hk hpart

/-- In tidy documents schemas go in no circle. -/
theorem Serves.not_circular (h : s.Serves t n p out) (hclean : s.inline.findings = [])
    (htidy : s.Tidy) (hfinds : s.FindsAll) :
    ¬ Circular s.resolve Rule.inPlace (p.base, p.value) := by
  rintro ⟨b, hb, hcircle⟩
  have hlinks : ∀ c, Relation.TransGen (Hands s.resolve Rule.inPlace) b c →
      Relation.TransGen s.Link ⟨b.1, b.2⟩ ⟨c.1, c.2⟩ := by
    intro c hc
    induction hc with
    | single hstep =>
      obtain ⟨_, q, _, rfl, hq⟩ := h.exists_reached hclean htidy.direct hfinds hb
      exact hq.links hstep
    | @tail c d hc hstep ih =>
      have hreached : Reaches s.resolve (p.base, p.value) c :=
        Relation.ReflTransGen.trans hb (Relation.ReflTransGen.mono
          (fun _ _ hs => hs.inside Rule.isChoice_inPlace) _ _ hc.to_reflTransGen)
      obtain ⟨_, q, _, rfl, hq⟩ := h.exists_reached hclean htidy.direct hfinds hreached
      exact Relation.TransGen.trans ih (hq.links hstep)
  obtain ⟨_, q, _, rfl, hq⟩ := h.exists_reached hclean htidy.direct hfinds hb
  exact htidy.descends q hq.meets (hlinks _ hcircle)

/-- A raw schema leads somewhere, and has no name. -/
theorem Serves.isSound_raw (h : s.Serves t n p out) (hfinds : s.FindsAll) :
    Draft7.IsSound s.resolve (p.base, p.value) where
  leads := by
    intro r hr
    have htarget : ∃ x, s.target? p.base r = some x := by
      rcases inlines_reference hr h.inlines with ⟨hnone, _⟩ | ⟨u, v, hu, _⟩ | ⟨u, v, _, hu, _⟩
      · exact absurd hnone (hfinds p r h.meets hr)
      · exact ⟨_, hu⟩
      · exact ⟨_, hu⟩
    obtain ⟨x, hx⟩ := htarget
    exact ⟨_, congrArg (Option.map _) hx⟩
  noId := fun ms hv hr => h.schematic.self.noId ms hv hr

/-- At every point that inlining comes to something comes out. -/
theorem IsMet.exists_serves (hclean : s.inline.findings = []) {o : Origin} (ho : s.IsMet o)
    (hs : s.Schematic t o) : ∃ n p out, p.origin = o ∧ s.Serves t n p out := by
  obtain ⟨p, hp, rfl⟩ := ho
  have hroot : s.Inlines s.bound s.start.stack s.start.base s.start.value _ := inlines_root hclean
  obtain ⟨n, out, hout, _⟩ := hroot.of_meets hp
  exact ⟨n, p, out, rfl, hp, hs, hout⟩

/-- In tidy documents a schema has a verdict on every value. -/
theorem exists_verdict {t : Idiom} (hclean : s.inline.findings = []) (htidy : s.Tidy)
    (hfinds : s.FindsAll) {o : Origin} (ho : s.IsMet o) (hs : s.Schematic t o) (v : Json) :
    ∃ b, (t.reading s.resolve).Verdict o.base o.value v b := by
  obtain ⟨n, p, out, rfl, h⟩ := IsMet.exists_serves hclean ho hs
  refine Draft7.exists_verdict_of_ends (r := t.reading s.resolve) (a := (p.base, p.value))
    (fun b hb => ?_) ?_ v
  · obtain ⟨_, q, _, rfl, hq⟩ := h.exists_reached hclean htidy.direct hfinds hb
    exact hq.isSound_raw hfinds
  · exact (Draft7.ends_iff_not_circular Rule.isChoice_inPlace
      (h.finite_reaches hclean htidy.direct hfinds)).2 (h.not_circular hclean htidy hfinds)

end MessageContract.Sources
