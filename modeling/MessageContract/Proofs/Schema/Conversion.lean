import MessageContract.Proofs.Schema.OpenApi
import MessageContract.Proofs.Schema.Simulation

/-!
# Converted schemas beside the served document

A payload schema is converted, and the document that its edges back lead into is not. So a converted
schema says what it said in OpenAPI as far as it was inlined, and beyond the edges back what the
schemas there say in Draft 7 (`Served.mixed`, `OpenApi.verdict_convert`). What inlining makes of raw
schemas of OpenAPI are schemas of OpenAPI again (`Sources.isFormed_dressed`).
-/

namespace MessageContract

namespace Served

/-- The payload in the idiom of OpenAPI, and the document in that of Draft 7. -/
def mixed (document : Json) : Reading Place where
  idiom
    | .payload => OpenApi.idiom
    | .document => Draft7.idiom
  resolve := resolve document

/-- No reference leads back into the payload. -/
theorem evaluate_document {document : Json} (r r' : Reading Place)
    (hr : r.resolve = resolve document) (hr' : r'.resolve = resolve document)
    (h : r.idiom .document = r'.idiom .document) (n : Nat) (schema v : Json) :
    r.evaluate n .document schema v = r'.evaluate n .document schema v := by
  induction n generalizing schema v with
  | zero => rfl
  | succ n ih =>
    cases href : schema.reference? with
    | some reference =>
      rw [r.evaluate_reference n _ href, r'.evaluate_reference n _ href, hr, hr']
      cases hx : resolve document .document reference with
      | none => rfl
      | some x =>
        obtain ⟨place, y⟩ := x
        obtain rfl : place = .document := (resolve_holds hx).1
        exact ih y v
    | none =>
      cases schema with
      | obj ms =>
        have hparts : r.evaluate n .document = r'.evaluate n .document :=
          funext fun schema => funext fun v => ih schema v
        rw [r.evaluate_obj n _ href, r'.evaluate_obj n _ href, hparts, h]
      | _ => rfl

end Served

/-- From a schema object to the schemas in its rules. -/
inductive Json.Nests : Json → Json → Prop
  | part {ms : Members} {rule : Draft7.Rule Json} {w : Json}
      (plain : (Json.obj ms).reference? = none) (rule_mem : rule ∈ Draft7.rules (Members.get? ms))
      (mem : w ∈ rule.inPlace ∨ w ∈ rule.below) : Nests (.obj ms) w

namespace OpenApi

/-- Names stand once in an object, and an object that is no reference is a schema object of
OpenAPI 3.0. -/
structure IsFormed (v : Json) : Prop where
  distinct : ∀ ms, v = .obj ms → (ms.map (·.1)).Nodup
  form : ∀ ms, v = .obj ms → v.reference? = none → IsForm ms

/-- A converted schema says in Draft 7 what it said in OpenAPI, if the references in it do. -/
theorem verdict_convert_of {κ : Type} {r s : Reading κ} {c : κ} (hr : r.idiom c = OpenApi.idiom)
    (hs : s.idiom c = Draft7.idiom)
    (hreferences : ∀ reference x n w b, r.resolve c reference = some x →
      r.evaluate n x.1 x.2 w = some b → ∃ y, s.resolve c reference = some y ∧
        s.Verdict y.1 y.2 w b) {v w : Json} {b : Bool}
    (hv : ∀ u, Relation.ReflTransGen Json.Nests v u → IsFormed u) (h : r.Verdict c v w b) :
    s.Verdict c (convert v) w b := by
  obtain ⟨n, hn⟩ := h
  induction n generalizing v w b with
  | zero => cases hn
  | succ n ih =>
    have hself := hv v Relation.ReflTransGen.refl
    cases hplain : v.reference? with
    | some reference =>
      rw [Reading.evaluate_reference _ n _ hplain] at hn
      obtain ⟨x, hx, hxb⟩ := Option.bind_eq_some_iff.1 hn
      obtain ⟨y, hy, hyb⟩ := hreferences reference x n w b hx hxb
      exact Reading.Verdict.reference ((reference?_convert hself.distinct).trans hplain) hy hyb
    | none =>
      cases v with
      | obj ms =>
        have hms := hself.distinct ms rfl
        have hform := hself.form ms rfl hplain
        rw [Reading.evaluate_obj _ n _ hplain] at hn
        split at hn
        · cases hn
        · next hid =>
          obtain ⟨b', hb', rfl⟩ := Option.map_eq_some_iff.1 hn
          have hconverted : (convert (.obj ms)).reference? = none :=
            (reference?_convert hself.distinct).trans hplain
          have hnoId : Members.get? (finish ms (convertKeywords ms)) "$id" = none := by
            rw [get?_convert_same hms (by decide) (by decide) (by decide) (by decide) (by decide)]
            exact Option.not_isSome_iff_eq_none.1 hid
          have hobj := Reading.Verdict.of_judge (r := s) (c := c) hconverted hnoId
            (rules_convert hms hform) hb' fun d hd x hx => ?_
          · rw [hs] at hobj
            rw [convert, hr]
            show s.Verdict _ _ w (admits (Members.get? ms) w && b')
            rw [← admits_convert hms hform]
            exact hobj
          obtain ⟨rule, hrule, hdr⟩ := Reading.mem_demands.1 hd
          have hnests : Json.Nests (.obj ms) d.1 :=
            .part hplain hrule ((Reading.demands_descend hdr).imp And.right And.right)
          exact ih (fun u hu => hv u (Relation.ReflTransGen.head hnests hu)) hx
      | _ => exact ⟨n + 1, hn⟩

/-- A converted schema says in Draft 7 what it said in OpenAPI, up to the edges back. -/
theorem verdict_convert {document v w : Json} {b : Bool}
    (hv : ∀ u, Relation.ReflTransGen Json.Nests v u → IsFormed u)
    (h : (Served.mixed document).Verdict .payload v w b) :
    (Draft7.idiom.reading (Served.resolve document)).Verdict .payload (convert v) w b := by
  refine verdict_convert_of (r := Served.mixed document)
    (s := Draft7.idiom.reading (Served.resolve document)) rfl rfl
    (fun reference x n w b hx hb => ⟨x, hx, n, ?_⟩) hv h
  obtain ⟨place, y⟩ := x
  obtain rfl : place = .document := (Served.resolve_holds hx).1
  rw [← hb]
  exact Served.evaluate_document (Draft7.idiom.reading (Served.resolve document))
    (Served.mixed document) rfl rfl rfl n y w

end OpenApi

/-! ## What comes out of schemas of OpenAPI -/

namespace Sources

variable {s : Sources}

/-- A raw schema of OpenAPI, with all schemas that it leads to. -/
structure IsOpenApi (s : Sources) (o : Origin) : Prop where
  schematic : s.Schematic OpenApi.idiom o
  formed : ∀ o', Relation.ReflTransGen s.Applies o o' → OpenApi.IsFormed o'.value

theorem IsOpenApi.applies {o o' : Origin} (h : s.IsOpenApi o) (ho : s.Applies o o') :
    s.IsOpenApi o' :=
  ⟨h.schematic.applies ho, fun o'' ho' => h.formed o'' (Relation.ReflTransGen.head ho ho')⟩

theorem IsOpenApi.leads {p q : Point} (h : s.IsOpenApi p.origin) (hq : s.Leads p q) :
    s.IsOpenApi q.origin := by
  induction hq with
  | refl => exact h
  | tail _ he ih => exact ih.applies (Applies.refers (refers_of_enters he))

/-- A schema object of OpenAPI comes out as one. -/
theorem Becomes.isForm {place : Served.Place} {fuel : Nat} {p : Point} {ms ns : Members}
    (h : s.Becomes OpenApi.idiom place fuel p ms ns) (hform : OpenApi.IsForm ms) :
    OpenApi.IsForm ns where
  type := fun x hx => hform.type x (by rw [← h.own "type" (by decide), hx])
  items := (h.replaces.items hform.items).2
  foreign := fun k hk => by
    rw [h.names]
    exact hform.foreign k hk

/-- What comes out of a schema of OpenAPI is what a schema object of OpenAPI becomes, an edge back,
or no object. -/
theorem IsOpenApi.dressed_cases (hfinds : s.FindsAll) {p : Point} (hp : s.Meets s.start p)
    (hs : s.IsOpenApi p.origin) {fuel : Nat} {out : Json}
    (hout : s.Inlines fuel p.stack p.base p.value out) (place : Served.Place) :
    (∃ q n ms ns, s.Meets s.start q ∧ s.IsOpenApi q.origin ∧
      s.Inlines n q.stack q.base q.value out ∧ q.value = .obj ms ∧ q.value.reference? = none ∧
      Served.dress place out = .obj ns ∧ s.Becomes OpenApi.idiom place n q ms ns) ∨
    (∃ q r t v, s.IsOpenApi q.origin ∧ s.Keeps q r t v ∧ out = backEdge t.pointer q.value) ∨
    ∀ ns, Served.dress place out ≠ .obj ns := by
  obtain ⟨q, n, hq, hin, hend⟩ := hout.exists_leads
  have hmeets : s.Meets s.start q := Relation.ReflTransGen.trans hp (meets_of_leads hq)
  have hqs := hs.leads hq
  rcases hend with hplain | ⟨r, hr, hnone⟩ | ⟨r, t, v, hk⟩
  · by_cases hobj : ∃ ms, q.value = .obj ms
    · obtain ⟨ms, hv⟩ := hobj
      obtain ⟨ns, hns, hbecomes⟩ := exists_becomes hv hplain hqs.schematic hin place
      exact Or.inl ⟨q, n, ms, ns, hmeets, hqs, hin, hv, hplain, hns, hbecomes⟩
    · exact Or.inr (Or.inr (hin.dress_ne_obj hplain fun ms hv => hobj ⟨ms, hv⟩))
  · exact absurd hnone (hfinds q r hmeets hr)
  · exact Or.inr (Or.inl ⟨q, r, t, v, hqs, hk, hin.eq_backEdge hk⟩)

/-- What comes out of a schema of OpenAPI is formed like one. -/
theorem IsOpenApi.isFormed (hfinds : s.FindsAll) {p : Point} (hp : s.Meets s.start p)
    (hs : s.IsOpenApi p.origin) {fuel : Nat} {out : Json}
    (hout : s.Inlines fuel p.stack p.base p.value out) (place : Served.Place) :
    OpenApi.IsFormed (Served.dress place out) := by
  rcases hs.dressed_cases hfinds hp hout place with
    ⟨q, _, ms, ns, _, hqs, _, hv, hplain, hns, hbecomes⟩ | ⟨q, r, t, v, hqs, hk, rfl⟩ | hnone
  · have hself := hqs.formed _ Relation.ReflTransGen.refl
    rw [hns]
    refine ⟨fun ns' h => ?_, fun ns' h _ => ?_⟩
    · obtain rfl := Json.obj.inj h
      rw [hbecomes.names]
      exact hself.distinct ms hv
    · obtain rfl := Json.obj.inj h
      exact hbecomes.isForm (hself.form ms hv hplain)
  · obtain ⟨ms, hms⟩ := reference?_obj hk.reference
    have hdistinct := (hqs.formed _ Relation.ReflTransGen.refl).distinct ms hms
    obtain ⟨r', hr', _⟩ := Served.resolve_backEdge place hk.reference t.pointer s.inline.value
    refine ⟨fun ns hns => ?_, fun ns _ hplain => ?_⟩
    · rw [hms, backEdge, Served.dress_obj] at hns
      obtain rfl := Json.obj.inj hns
      rw [List.map_map]
      exact Members.nodup_insert hdistinct _ _
    · rw [hr'] at hplain
      cases hplain
  · exact ⟨fun ns h => absurd h (hnone ns), fun ns h => absurd h (hnone ns)⟩

/-- The schemas in what comes out of a schema of OpenAPI come out of schemas of OpenAPI. -/
theorem IsOpenApi.nests (hfinds : s.FindsAll) {p : Point} (hp : s.Meets s.start p)
    (hs : s.IsOpenApi p.origin) {fuel : Nat} {out : Json}
    (hout : s.Inlines fuel p.stack p.base p.value out) {place : Served.Place} {u : Json}
    (hu : Json.Nests (Served.dress place out) u) :
    ∃ q n x, s.Meets s.start q ∧ s.IsOpenApi q.origin ∧ s.Inlines n q.stack q.base q.value x ∧
      u = Served.dress place x := by
  rcases hs.dressed_cases hfinds hp hout place with
    ⟨q, n, ms, ns, hq, hqs, hin, hv, hplain, hns, hbecomes⟩ | ⟨q, r, t, v, _, hk, rfl⟩ | hnone
  · rw [hns] at hu
    obtain ⟨_, hrule, hmem⟩ := hu
    rw [Draft7.rules_replaced hbecomes.replaces] at hrule
    obtain ⟨rule, hof, rfl⟩ := List.mem_map.1 hrule
    obtain ⟨x, hx, rfl⟩ : ∃ x, (x ∈ rule.inPlace ∨ x ∈ rule.below) ∧
        s.dressed place n q.stack q.base x = u := by
      rw [Reading.inPlace_map, Reading.below_map] at hmem
      rcases hmem with hmem | hmem
      · obtain ⟨x, hx, hxu⟩ := List.mem_map.1 hmem
        exact ⟨x, Or.inl hx, hxu⟩
      · obtain ⟨x, hx, hxu⟩ := List.mem_map.1 hmem
        exact ⟨x, Or.inr hx, hxu⟩
    obtain ⟨k, hk⟩ := exists_part hof hx
    obtain ⟨hmeets, hpart⟩ := meets_part hv hplain hqs.schematic.self hk hin
    exact ⟨_, n, _, Relation.ReflTransGen.trans hq hmeets,
      hqs.applies (Applies.part hv hplain hof hx), hpart, rfl⟩
  · obtain ⟨r', hr', _⟩ := Served.resolve_backEdge place hk.reference t.pointer s.inline.value
    generalize Served.dress place (backEdge t.pointer q.value) = y at hu hr'
    obtain ⟨hplain, _, _⟩ := hu
    rw [hr'] at hplain
    cases hplain
  · generalize Served.dress place out = y at hu hnone
    obtain ⟨_, _, _⟩ := hu
    exact absurd rfl (hnone _)

/-- What comes out of a schema of OpenAPI is formed like one throughout. -/
theorem IsOpenApi.isFormed_within (hfinds : s.FindsAll) {p : Point} (hp : s.Meets s.start p)
    (hs : s.IsOpenApi p.origin) {fuel : Nat} {out : Json}
    (hout : s.Inlines fuel p.stack p.base p.value out) (place : Served.Place) {u : Json}
    (hu : Relation.ReflTransGen Json.Nests (Served.dress place out) u) : OpenApi.IsFormed u := by
  suffices h : ∃ q n x, s.Meets s.start q ∧ s.IsOpenApi q.origin ∧
      s.Inlines n q.stack q.base q.value x ∧ u = Served.dress place x by
    obtain ⟨q, n, x, hq, hqs, hx, rfl⟩ := h
    exact hqs.isFormed hfinds hq hx place
  induction hu with
  | refl => exact ⟨p, fuel, out, hp, hs, hout, rfl⟩
  | tail _ hnests ih =>
    obtain ⟨q, n, x, hq, hqs, hx, rfl⟩ := ih
    exact hqs.nests hfinds hq hx hnests

end Sources
end MessageContract
