import MessageContract.Proofs.Reference.Inlined
import MessageContract.Proofs.Reference.Origin

/-!
# Schemas in raw documents

From a schema its references lead on, and its rules apply other schemas (`Sources.Applies`). It is
read as a schema throughout (`Sources.Schematic`) if references stand only where schemas are applied,
name schemas, and nothing is named by `$id`. Schemas that are applied to the same value are linked
(`Sources.links_of_part`), and inlining comes to all of them (`Sources.meets_part`).
-/

namespace MessageContract

/-- An object or a boolean. -/
def Json.isSchema (v : Json) : Bool := v.isObject || v.isBool

namespace Sources

variable (s : Sources)

/-- From a reference to what it names, and from a schema object to the schemas in its rules. -/
inductive Applies : Origin → Origin → Prop
  | refers {o o' : Origin} (h : s.Refers o o') : Applies o o'
  | part {o : Origin} {ms : Members} {rule : Draft7.Rule Json} {x : Json}
      (value : o.value = .obj ms) (plain : o.value.reference? = none)
      (rule_mem : rule ∈ Draft7.rules (Members.get? ms))
      (mem : x ∈ rule.inPlace ∨ x ∈ rule.below) : Applies o { o with value := x }

/-- What is asked of a schema: references stand in it only as schemas, and name schemas. -/
structure WellPlaced (t : Idiom) (o : Origin) : Prop where
  named : ∀ o', s.Refers o o' → o'.value.isSchema = true
  noId : ∀ ms, o.value = .obj ms → o.value.reference? = none → Members.get? ms "$id" = none
  own : ∀ ms, o.value = .obj ms → o.value.reference? = none → ∀ k ∈ "$ref" :: t.keywords,
    ∀ x, Members.get? ms k = some x → x.IsPlain
  holders : ∀ ms, o.value = .obj ms → o.value.reference? = none →
    ∀ k ∈ Draft7.listKeywords ++ Draft7.mapKeywords, ∀ x, Members.get? ms k = some x →
      ¬ x.IsReference
  names : ∀ ms, o.value = .obj ms → o.value.reference? = none → ∀ ds,
    Members.get? ms "dependencies" = some (.obj ds) → ∀ name xs, (name, .arr xs) ∈ ds →
      (Json.arr xs).IsPlain

/-- The same is asked of every schema that a schema leads to. -/
def Schematic (t : Idiom) (o : Origin) : Prop :=
  ∀ o', Relation.ReflTransGen s.Applies o o' → s.WellPlaced t o'

variable {s} {t : Idiom}

theorem Schematic.self {o : Origin} (h : s.Schematic t o) : s.WellPlaced t o :=
  h o Relation.ReflTransGen.refl

theorem Schematic.applies {o o' : Origin} (h : s.Schematic t o) (ho : s.Applies o o') :
    s.Schematic t o' :=
  fun o'' ho' => h o'' (Relation.ReflTransGen.head ho ho')

theorem Schematic.refers {o o' : Origin} (h : s.Schematic t o) (ho : s.Refers o o') :
    s.Schematic t o' :=
  h.applies (Applies.refers ho)

theorem Schematic.leads {p q : Point} (h : s.Schematic t p.origin) (hq : s.Leads p q) :
    s.Schematic t q.origin := by
  induction hq with
  | refl => exact h
  | tail _ he ih => exact ih.refers (refers_of_enters he)

/-! ## Parts -/

/-- The schemas that are applied to the value itself are linked. -/
theorem links_of_part {o : Origin} {ms : Members} (hv : o.value = .obj ms)
    (hr : o.value.reference? = none) (hw : s.WellPlaced t o) {k : String} {x : Json}
    (hk : k ∉ Draft7.descending) (h : Draft7.Part (Members.get? ms) k x) :
    Relation.TransGen s.Link o { o with value := x } := by
  cases h with
  | value hx =>
    exact Relation.TransGen.single (Link.member hv hr (Members.mem_of_get? hx) (Or.inl hk))
  | @item xs _ hxs hmem =>
    have hlist := Link.member (s := s) hv hr (Members.mem_of_get? hxs) (Or.inl hk)
    exact Relation.TransGen.tail (Relation.TransGen.single hlist)
      (Link.item (o := { o with value := .arr xs }) rfl hmem)
  | @entry _ ds name hmap hds hmem =>
    have hname : k = "dependencies" := by
      simp only [Draft7.mapKeywords, List.mem_cons, List.not_mem_nil, or_false] at hmap
      rcases hmap with rfl | rfl | rfl
      · exact absurd (by decide) hk
      · exact absurd (by decide) hk
      · rfl
    subst hname
    have hopen := Json.reference?_eq_none (hw.holders ms hv hr "dependencies" (by decide) _ hds)
    exact Relation.TransGen.single (Link.dependency hv hr (Members.mem_of_get? hds) hopen hmem)

/-- Inlining comes to the schemas in a schema object, and finds nothing there either. -/
theorem meets_part {p : Point} {ms : Members} (hv : p.value = .obj ms)
    (hr : p.value.reference? = none) (hw : s.WellPlaced t p.origin) {k : String} {x : Json}
    (h : Draft7.Part (Members.get? ms) k x) {fuel : Nat} {out : Json}
    (hout : s.Inlines fuel p.stack p.base p.value out) :
    s.Meets p { p with value := x } ∧
      s.Inlines fuel p.stack p.base x (s.inlined fuel p.stack p.base x) := by
  have hchild : ∀ {k x}, Members.get? ms k = some x → x ∈ p.value.children := by
    intro k x hx
    rw [hv]
    exact List.mem_map.2 ⟨_, Members.mem_of_get? hx, rfl⟩
  have hnext : ∀ {k y}, Members.get? ms k = some y → y.reference? = none → x ∈ y.children →
      s.Meets p { p with value := x } ∧
        s.Inlines fuel p.stack p.base x (s.inlined fuel p.stack p.base x) := by
    intro k y hy hyr hxy
    refine ⟨Meets.part hr (hchild hy) ?_, (hout.child hr (hchild hy)).child hyr hxy⟩
    exact Meets.part (p := { p with value := y }) hyr hxy (Meets.refl _)
  cases h with
  | value hx => exact ⟨Meets.part hr (hchild hx) (Meets.refl _), hout.child hr (hchild hx)⟩
  | item hxs hmem => exact hnext hxs rfl hmem
  | entry hmap hds hmem =>
    have hopen := hw.holders ms hv hr k (List.mem_append_right _ hmap) _ hds
    exact hnext hds (Json.reference?_eq_none hopen) (List.mem_map.2 ⟨_, hmem, rfl⟩)

theorem exists_part {ms : Members} {rule : Draft7.Rule Json} {x : Json}
    (hrule : rule ∈ Draft7.rules (Members.get? ms)) (hx : x ∈ rule.inPlace ∨ x ∈ rule.below) :
    ∃ k, Draft7.Part (Members.get? ms) k x := by
  rcases hx with hx | hx
  · obtain ⟨k, _, hk⟩ := Draft7.part_of_inPlace rule hrule x hx
    exact ⟨k, hk⟩
  · exact Draft7.part_of_below rule hrule x hx

/-! ## References -/

/-- What a reference to schemas gives way to is a schema. -/
theorem Inlines.isSchema {fuel : Nat} {p : Point} {out : Json} {r : String}
    (h : s.Inlines fuel p.stack p.base p.value out) (hr : p.value.reference? = some r)
    (hs : s.Schematic t p.origin) : out.isSchema = true := by
  have hholder : ∀ {v : Json} {r : String}, v.reference? = some r → v.isSchema = true := by
    intro v r hv
    obtain ⟨ms, rfl⟩ := reference?_obj hv
    rfl
  obtain ⟨q, n, hq, hout, hend⟩ := h.exists_leads
  rcases hend with hplain | ⟨r', hr', hnone⟩ | ⟨r', t, v, hk⟩
  · -- the last reference on the way names a schema that is no reference
    have hschema : q.value.isSchema = true := by
      rcases Relation.ReflTransGen.cases_tail hq with rfl | ⟨q', hq', he⟩
      · rw [hr] at hplain
        cases hplain
      · exact (hs.leads hq').self.named _ (refers_of_enters he)
    obtain ⟨stack, base, value⟩ := q
    cases value with
    | obj ms =>
      obtain ⟨ns, rfl, _⟩ := inlines_obj hplain hout
      rfl
    | bool b =>
      rw [inlines_leaf ⟨by simp, by simp⟩ hout]
      rfl
    | _ => cases hschema
  · rcases inlines_reference hr' hout with ⟨_, rfl⟩ | ⟨t, v, ht, _⟩ | ⟨t, v, n, ht, _⟩
    · exact hholder hr'
    · exact absurd hnone (find?_of_target? ht)
    · exact absurd hnone (find?_of_target? ht)
  · rw [hout.eq_backEdge hk]
    exact hholder (reference?_backEdge hk.reference t.pointer)

end Sources
end MessageContract
