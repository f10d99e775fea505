import MessageContract.Proofs.Schema.Position
import MessageContract.Proofs.Schema.Served

/-!
# Raw schemas and what comes out of them

A raw schema, with references followed when they are called for, is compared with what inlining makes
of it, read beside the document with its references inlined. The rules are the same, about schemas
that came out (`Sources.exists_replaced`), and an edge back leads to what came out of the value that
the raw reference names. So every verdict of the raw schema is one of what came out
(`Sources.verdict_dressed`).
-/

namespace MessageContract.Sources

variable {s : Sources} {place : Served.Place} {fuel : Nat} {stack : List Target} {base : Location}

/-- What comes out of a value, as it stands in a place. -/
def dressed (s : Sources) (place : Served.Place) (fuel : Nat) (stack : List Target)
    (base : Location) (v : Json) : Json :=
  Served.dress place (s.inlined fuel stack base v)

/-! ## Forms -/

theorem inlined_ne_arr {v : Json}
    (h : v.reference? = none ∨ (s.inlined fuel stack base v).isSchema = true)
    (hv : ∀ xs, v ≠ .arr xs) (xs : List Json) : s.inlined fuel stack base v ≠ .arr xs := by
  rcases h with hr | hschema
  · cases v with
    | obj ms =>
      rw [inlined_obj hr]
      simp
    | arr ys => exact absurd rfl (hv ys)
    | _ => simp [inlined_leaf]
  · intro heq
    rw [heq] at hschema
    cases hschema

theorem inlined_ne_str {v : Json}
    (h : v.reference? = none ∨ (s.inlined fuel stack base v).isSchema = true)
    (hv : ∀ t, v ≠ .str t) (t : String) : s.inlined fuel stack base v ≠ .str t := by
  rcases h with hr | hschema
  · cases v with
    | obj ms =>
      rw [inlined_obj hr]
      simp
    | arr ys =>
      rw [inlined_arr]
      simp
    | str t => exact absurd rfl (hv t)
    | _ => simp [inlined_leaf]
  · intro heq
    rw [heq] at hschema
    cases hschema

theorem dress_ne_arr {v : Json} (hv : ∀ xs, v ≠ .arr xs) (xs : List Json) :
    Served.dress place v ≠ .arr xs := by
  cases v with
  | obj ms =>
    rw [Served.dress_obj]
    simp
  | arr ys => exact absurd rfl (hv ys)
  | _ => simp [Served.dress_leaf]

/-- What is neither a reference nor an object comes out as no object. -/
theorem Inlines.dress_ne_obj {v out : Json} (hr : v.reference? = none) (hv : ∀ ms, v ≠ .obj ms)
    (h : s.Inlines fuel stack base v out) (ms : Members) : Served.dress place out ≠ .obj ms := by
  cases v with
  | obj ns => exact absurd rfl (hv ns)
  | arr xs =>
    obtain ⟨ys, rfl, _⟩ := inlines_arr h
    rw [Served.dress_arr]
    nofun
  | _ =>
    rw [inlines_leaf ⟨by simp, by simp⟩ h, Served.dress_leaf place (by simp) (by simp)]
    nofun

/-- Lists of schemas stay lists, and no schema becomes one. -/
theorem keepsItems_dressed {x : Json}
    (h : (∀ xs, x ≠ .arr xs) →
      x.reference? = none ∨ (s.inlined fuel stack base x).isSchema = true) :
    Draft7.KeepsItems (s.dressed place fuel stack base) x where
  items := by
    rintro xs rfl
    rw [dressed, inlined_arr, Served.dress_arr, List.map_map]
    rfl
  others := fun hx => dress_ne_arr (inlined_ne_arr (h hx) hx)

/-- Maps of schemas stay maps, and nothing else becomes one. -/
theorem keepsMembers_dressed {x : Json} (hx : ¬ x.IsReference)
    (h : ∀ ms, x = .obj ms → ∀ m ∈ ms, (∀ xs, m.2 ≠ .arr xs) →
      m.2.reference? = none ∨ (s.inlined fuel stack base m.2).isSchema = true) :
    Draft7.KeepsMembers (s.dressed place fuel stack base) x where
  members := by
    rintro ms rfl
    rw [dressed, inlined_obj (Json.reference?_eq_none hx), Served.dress_obj, List.map_map]
    congr 1
    refine List.map_congr_left fun m hm => congrArg (Prod.mk m.1) (Served.dressMember_eq place ?_)
    intro hk t
    have hne : ∀ t, m.2 ≠ .str t := by
      intro t ht
      exact hx ⟨ms, t, rfl, by rwa [← hk, ← ht]⟩
    by_cases harr : ∃ xs, m.2 = .arr xs
    · obtain ⟨xs, hxs⟩ := harr
      show s.inlined fuel stack base m.2 ≠ .str t
      rw [hxs, inlined_arr]
      simp
    · exact inlined_ne_str (h ms rfl m hm fun xs hxs => harr ⟨xs, hxs⟩) hne t
  others := by
    intro hne ms
    cases x with
    | obj ns => exact absurd rfl (hne ns)
    | arr xs =>
      rw [dressed, inlined_arr, Served.dress_arr]
      simp
    | _ => simp [dressed, inlined_leaf, Served.dress_leaf]

theorem dressed_plain {x : Json} (h : x.IsPlain) : s.dressed place fuel stack base x = x := by
  rw [dressed, inlined_plain h, Served.dress_plain place h]

/-! ## Schema objects -/

variable {t : Idiom}

/-- What a schema object becomes: another one with the same names, with what came out of its schemas,
and otherwise the same. -/
structure Becomes (s : Sources) (t : Idiom) (place : Served.Place) (fuel : Nat) (p : Point)
    (ms ns : Members) : Prop where
  plain : (Json.obj ns).reference? = none
  noId : Members.get? ns "$id" = none
  names : ns.map (·.1) = ms.map (·.1)
  own : ∀ k ∈ t.keywords, Members.get? ns k = Members.get? ms k
  replaces : Draft7.Replaces (s.dressed place fuel p.stack p.base) (Members.get? ms)
    (Members.get? ns)

/-- A schema in a schema object is no reference, or gives way to a schema. -/
theorem inlined_part {p : Point} {ms : Members} (hv : p.value = .obj ms)
    (hr : p.value.reference? = none) (hs : s.Schematic t p.origin) {out : Json}
    (hout : s.Inlines fuel p.stack p.base p.value out) {x : Json}
    (hx : ∃ rule ∈ Draft7.rules (Members.get? ms), x ∈ rule.inPlace ∨ x ∈ rule.below) :
    x.reference? = none ∨ (s.inlined fuel p.stack p.base x).isSchema = true := by
  obtain ⟨rule, hrule, hx⟩ := hx
  cases hxr : x.reference? with
  | none => exact Or.inl rfl
  | some r =>
    obtain ⟨k, hk⟩ := exists_part hrule hx
    have hin := (meets_part hv hr hs.self hk hout).2
    exact Or.inr (Inlines.isSchema (p := { p with value := x }) hin hxr
      (hs.applies (Applies.part hv hr hrule hx)))

/-- The members of a schema object, as they come out and stand in a place. -/
def dressedMembers (s : Sources) (place : Served.Place) (fuel : Nat) (p : Point) (ms : Members) :
    Members :=
  ms.map fun m => (m.1, Served.dressMember place m.1 (s.inlined fuel p.stack p.base m.2))

theorem dress_eq_obj {p : Point} {ms : Members} (hv : p.value = .obj ms)
    (hr : p.value.reference? = none) {out : Json} (hout : s.Inlines fuel p.stack p.base p.value out)
    (place : Served.Place) : Served.dress place out = .obj (s.dressedMembers place fuel p ms) := by
  rw [hout.eq_inlined, hv, inlined_obj (hv ▸ hr), Served.dress_obj, List.map_map]
  rfl

theorem get?_dressedMembers (p : Point) (ms : Members) (k : String) :
    Members.get? (s.dressedMembers place fuel p ms) k =
      (Members.get? ms k).map fun x =>
        Served.dressMember place k (s.inlined fuel p.stack p.base x) :=
  Members.get?_map (fun k x => Served.dressMember place k (s.inlined fuel p.stack p.base x)) ms k

/-- What holds no references stays, if it is no text under `$ref`. -/
theorem get?_dressedMembers_plain (p : Point) {ms : Members} {k : String}
    (hplain : ∀ x, Members.get? ms k = some x → x.IsPlain)
    (hne : k = "$ref" → ∀ text, Members.get? ms k ≠ some (.str text)) :
    Members.get? (s.dressedMembers place fuel p ms) k = Members.get? ms k := by
  rw [get?_dressedMembers]
  cases hx : Members.get? ms k with
  | none => rfl
  | some x =>
    have htext : k = "$ref" → ∀ text, x ≠ .str text := fun hk text h => hne hk text (h ▸ hx)
    rw [Option.map_some, inlined_plain (hplain x hx), Served.dressMember_eq place htext,
      Served.dress_plain place (hplain x hx)]

/-- The schemas in a schema object give way to what came out of them. -/
theorem maps_dressedMembers {p : Point} {ms : Members} (hv : p.value = .obj ms)
    (hr : p.value.reference? = none) (hs : s.Schematic t p.origin) {out : Json}
    (hout : s.Inlines fuel p.stack p.base p.value out) (place : Served.Place) :
    Draft7.Maps (s.dressed place fuel p.stack p.base) (Members.get? ms)
      (Members.get? (s.dressedMembers place fuel p ms)) := by
  have hw := hs.self
  have hpart := fun x => inlined_part hv hr hs hout (x := x)
  refine ⟨?keywords, ?lists, ?maps, ?dependencies⟩
  case keywords =>
    intro k hk
    rw [get?_dressedMembers]
    cases Members.get? ms k with
    | none => rfl
    | some x =>
      refine congrArg some (Served.dressMember_eq place ?_)
      rintro rfl
      exact absurd hk (by decide)
  case lists =>
    intro k hk x hx
    rcases List.mem_cons.1 hk with rfl | hk
    · exact keepsItems_dressed fun hne =>
        hpart x ⟨_, Draft7.items_mem_rules hx hne, Or.inr (List.mem_singleton.2 rfl)⟩
    · exact keepsItems_dressed fun _ =>
        Or.inl (Json.reference?_eq_none (hw.holders ms hv hr k (List.mem_append_left _ hk) x hx))
  case maps =>
    intro k hk x hx
    refine keepsMembers_dressed (hw.holders ms hv hr k (List.mem_append_right _ hk) x hx) ?_
    rintro ds rfl m hm hne
    exact hpart m.2 (Draft7.exists_rule_of_entry hk hx hm hne)
  case dependencies =>
    intro ds hds d hd
    refine ⟨fun xs hxs => ?_, fun hne => ?_⟩
    · rw [hxs]
      exact dressed_plain (hw.names ms hv hr ds hds d.1 xs (hxs ▸ hd))
    · exact dress_ne_arr (inlined_ne_arr
        (hpart d.2 (Draft7.exists_rule_of_entry (by decide) hds hd hne)) hne)

/-- What comes out of a schema object is a schema object with what came out of its schemas. -/
theorem exists_becomes {p : Point} {ms : Members} (hv : p.value = .obj ms)
    (hr : p.value.reference? = none) (hs : s.Schematic t p.origin) {out : Json}
    (hout : s.Inlines fuel p.stack p.base p.value out) (place : Served.Place) :
    ∃ ns, Served.dress place out = .obj ns ∧ s.Becomes t place fuel p ms ns := by
  have hw := hs.self
  have hplain : ∀ k ∈ "$ref" :: t.keywords, ∀ x, Members.get? ms k = some x → x.IsPlain :=
    hw.own ms hv hr
  have hnone : ∀ text, Members.get? ms "$ref" ≠ some (.str text) := by
    intro text h
    rw [hv, Json.reference?, h] at hr
    cases hr
  have hown : ∀ k ∈ "$ref" :: t.keywords,
      Members.get? (s.dressedMembers place fuel p ms) k = Members.get? ms k := fun k hk =>
    get?_dressedMembers_plain p (hplain k hk) fun h => h ▸ hnone
  refine ⟨_, dress_eq_obj hv hr hout place, ?_, ?_, ?_, fun k hk => hown k
    (List.mem_cons_of_mem _ hk), (maps_dressedMembers hv hr hs hout place).replaces⟩
  · rw [Json.reference?, hown "$ref" List.mem_cons_self]
    rw [hv] at hr
    exact hr
  · rw [get?_dressedMembers, hw.noId ms hv hr]
    rfl
  · rw [dressedMembers, List.map_map]
    rfl

/-! ## References -/

/-- Every reference that inlining comes to finds its document. -/
def FindsAll (s : Sources) : Prop :=
  ∀ p r, s.Meets s.start p → p.value.reference? = some r →
    s.find? p.base (Reference.document r) ≠ none

/-- An edge back leads from every place to what came out of the value that it names. -/
theorem Keeps.exists_image (hclean : s.inline.findings = []) (hdirect : s.Direct) {p : Point}
    (hp : s.Meets s.start p) {r : String} {t : Target} {v : Json} (hk : s.Keeps p r t v)
    (place : Served.Place) :
    ∃ r' y, (Served.dress place (backEdge t.pointer p.value)).reference? = some r' ∧
      Served.resolve s.inline.value place r' = some (.document, y) ∧ t.location = s.location ∧
      s.Meets s.start ⟨[], s.location, v⟩ ∧ s.Inlines s.bound [] s.location v y := by
  obtain ⟨hfind, rfl, hpointer⟩ := hk.names_root
  have hstraight := hdirect.straight p r _ hp hk.reference hfind
  have hplain := hdirect.plain p r hp hk.reference
  obtain ⟨y, hx, hy⟩ := (inlines_root hclean).pointer hstraight hpointer
  obtain ⟨r', hr', hresolve⟩ := Served.resolve_backEdge place hk.reference (Reference.fragment r)
    s.inline.value
  have hno : '%' ∉ (Reference.fragment r).toList := fun h => (hplain _ h).2 rfl
  have hfragment : s.inline.value.fragment? (Reference.fragment r) = some y := by
    rw [Json.fragment?_plain hno ((Uri.isFragment_plain hno).2 fun c hc => (hplain c hc).1)]
    exact hx
  rw [hfragment, Option.map_some] at hresolve
  exact ⟨r', y, hr', hresolve, rfl, meets_of_sees (Json.sees_of_pointer hstraight hpointer), hy⟩

/-- A reference gives way to what it names, or leads back to what came out of it. -/
theorem dressed_reference (hclean : s.inline.findings = []) (hdirect : s.Direct)
    (hfinds : s.FindsAll) {p : Point} (hp : s.Meets s.start p) {r : String}
    (hr : p.value.reference? = some r) {out : Json}
    (hout : s.Inlines fuel p.stack p.base p.value out) {x : Location × Json}
    (hx : s.resolve p.base r = some x) (place : Served.Place) :
    ∃ q n y, s.Meets s.start q ∧ q.origin = ⟨x.1, x.2⟩ ∧ s.Inlines n q.stack q.base q.value y ∧
      (out = y ∧ n < fuel ∨ ∃ r', (∃ t, s.Keeps p r t x.2 ∧ t.location = x.1) ∧
        (Served.dress place out).reference? = some r' ∧
        Served.resolve s.inline.value place r' = some (.document, y)) := by
  obtain ⟨⟨t, w⟩, ht, rfl⟩ := Option.map_eq_some_iff.1 hx
  rcases inlines_reference hr hout with ⟨hnone, _⟩ | ⟨t', w', ht', hany, hroot, rfl⟩ |
    ⟨t', w', n, ht', hfresh, rfl, hw⟩
  · exact absurd hnone (hfinds p r hp hr)
  · obtain ⟨rfl, rfl⟩ := target?_unique ht ht'
    have hk : s.Keeps p r t w := ⟨hr, ht, hany, hroot⟩
    obtain ⟨r', y, hr', hresolve, hlocation, hmeets, hy⟩ := hk.exists_image hclean hdirect hp place
    exact ⟨⟨[], s.location, w⟩, s.bound, y, hmeets, by rw [hlocation]; rfl, hy,
      Or.inr ⟨r', ⟨t, hk, rfl⟩, hr', hresolve⟩⟩
  · obtain ⟨rfl, rfl⟩ := target?_unique ht ht'
    exact ⟨⟨t :: p.stack, t.location, w⟩, n, out,
      Relation.ReflTransGen.tail hp (Step.enter ⟨hr, ht, hfresh⟩), rfl, hw,
      Or.inl ⟨rfl, Nat.lt_succ_self n⟩⟩

/-! ## Verdicts -/

/-- An edge back that a schema leads to leads on to another schema. -/
def Beyond (s : Sources) (o o' : Origin) : Prop :=
  ∃ p r t v, s.Meets s.start p ∧ s.Keeps p r t v ∧
    Relation.ReflTransGen s.Applies o p.origin ∧
    Relation.ReflTransGen s.Applies ⟨t.location, v⟩ o'

/-- A schema object asks for the same by itself in both idioms. -/
def Alike (t u : Idiom) (o : Origin) : Prop :=
  ∀ ms, o.value = .obj ms → o.value.reference? = none →
    u.admits (Members.get? ms) = t.admits (Members.get? ms)

theorem Beyond.head {o o' o'' : Origin} (h : Relation.ReflTransGen s.Applies o o')
    (hb : s.Beyond o' o'') : s.Beyond o o'' := by
  obtain ⟨p, r, t, v, hp, hk, hleads, hrest⟩ := hb
  exact ⟨p, r, t, v, hp, hk, Relation.ReflTransGen.trans h hleads, hrest⟩

/-- A schema object has its verdict where it comes to stand, if the schemas in it have theirs. -/
theorem verdict_dressed_obj {served : Served.Place → Idiom}
    (hkeywords : (served place).keywords ⊆ t.keywords) {p : Point} {ms : Members}
    (hv : p.value = .obj ms) (hr : p.value.reference? = none) (hs : s.Schematic t p.origin)
    {out : Json} (hout : s.Inlines fuel p.stack p.base p.value out)
    (halike : Alike t (served place) p.origin) {document v : Json} {n : Nat} {b : Bool}
    (hb : (t.reading s.resolve).evaluate (n + 1) p.base p.value v = some b)
    (hparts : ∀ rule ∈ Draft7.rules (Members.get? ms), ∀ x, (x ∈ rule.inPlace ∨ x ∈ rule.below) →
      ∀ w c, (t.reading s.resolve).evaluate n p.base x w = some c →
        (Reading.mk served (Served.resolve document)).Verdict place
          (s.dressed place fuel p.stack p.base x) w c) :
    (Reading.mk served (Served.resolve document)).Verdict place (Served.dress place out) v b := by
  have hobj : (Json.obj ms).reference? = none := hv ▸ hr
  rw [hv, Reading.evaluate_obj _ n p.base hobj, hs.self.noId ms hv hr, Option.isSome_none,
    if_neg Bool.false_ne_true] at hb
  obtain ⟨b', hb', rfl⟩ := Option.map_eq_some_iff.1 hb
  obtain ⟨ns, hns, hbecomes⟩ := exists_becomes hv hr hs hout place
  have hadmits : (served place).admits (Members.get? ns) = t.admits (Members.get? ms) := by
    rw [(served place).admits_congr fun k hk => hbecomes.own k (hkeywords hk)]
    exact halike ms hv hr
  rw [hns]
  show Reading.Verdict _ place (.obj ns) v (t.admits (Members.get? ms) v && b')
  rw [← hadmits]
  refine Reading.Verdict.of_judge (r := ⟨served, Served.resolve document⟩) hbecomes.plain
    hbecomes.noId (Draft7.rules_replaced hbecomes.replaces) hb' fun d hd c hc => ?_
  obtain ⟨rule, hrule, hdr⟩ := Reading.mem_demands.1 hd
  have hmem : d.1 ∈ rule.inPlace ∨ d.1 ∈ rule.below :=
    (Reading.demands_descend hdr).imp And.right And.right
  exact hparts rule hrule d.1 hmem d.2 c hc

/-- What is neither a reference nor an object is read alike everywhere. -/
theorem verdict_dressed_other {r : Reading Served.Place} {p : Point} {out : Json}
    (hobj : ∀ ms, p.value ≠ .obj ms) (hout : s.Inlines fuel p.stack p.base p.value out) {v : Json}
    {n : Nat} {b : Bool} (hb : (t.reading s.resolve).evaluate (n + 1) p.base p.value v = some b) :
    r.Verdict place (Served.dress place out) v b := by
  obtain ⟨stack, base, value⟩ := p
  cases value with
  | obj ms => exact absurd rfl (hobj ms)
  | arr xs =>
    obtain ⟨ys, rfl, _⟩ := inlines_arr hout
    rw [Served.dress_arr]
    exact ⟨n + 1, hb⟩
  | _ =>
    rw [inlines_leaf ⟨by simp, by simp⟩ hout, Served.dress_leaf place (by simp) (by simp)]
    exact ⟨n + 1, hb⟩

/-- What comes out of a raw schema has its verdicts, if schemas are read alike where they come to
stand. -/
theorem verdict_dressed (hclean : s.inline.findings = []) (htidy : s.Tidy) (hfinds : s.FindsAll)
    (served : Served.Place → Idiom) (hkeywords : ∀ place, (served place).keywords ⊆ t.keywords)
    {p : Point} (hp : s.Meets s.start p) (hs : s.Schematic t p.origin) {out : Json}
    (hout : s.Inlines fuel p.stack p.base p.value out) {place : Served.Place}
    (hhere : ∀ o, Relation.ReflTransGen s.Applies p.origin o → Alike t (served place) o)
    (hbeyond : ∀ o, s.Beyond p.origin o → Alike t (served .document) o) {v : Json} {b : Bool}
    (hb : (t.reading s.resolve).Verdict p.base p.value v b) :
    (Reading.mk served (Served.resolve s.inline.value)).Verdict place (Served.dress place out)
      v b := by
  obtain ⟨n, hb⟩ := hb
  induction n generalizing p fuel out v b place with
  | zero => cases hb
  | succ n ih =>
    cases hr : p.value.reference? with
    | some r =>
      rw [Reading.evaluate_reference _ n p.base hr] at hb
      obtain ⟨x, hx, hxb⟩ := Option.bind_eq_some_iff.1 hb
      obtain ⟨q, m, y, hq, hqx, hy, hend⟩ :=
        dressed_reference hclean htidy.direct hfinds hp hr hout hx place
      have hrefers : s.Refers p.origin q.origin := ⟨r, hr, hqx ▸ hx⟩
      have hqs := hs.refers hrefers
      have hqb : ∀ o, s.Beyond q.origin o → Alike t (served .document) o := fun o ho =>
        hbeyond o (ho.head (Relation.ReflTransGen.single (Applies.refers hrefers)))
      obtain ⟨stack, base, value⟩ := q
      cases hqx
      rcases hend with ⟨rfl, _⟩ | ⟨r', ⟨u, hk, hu⟩, hr', hx'⟩
      · exact ih hq hqs hy
          (fun o ho => hhere o (Relation.ReflTransGen.head (Applies.refers hrefers) ho)) hqb hxb
      · have hthere : ∀ o, Relation.ReflTransGen s.Applies ⟨x.1, x.2⟩ o →
            Alike t (served .document) o := fun o ho =>
          hbeyond o ⟨p, r, u, x.2, hp, hk, Relation.ReflTransGen.refl, hu ▸ ho⟩
        exact Reading.Verdict.reference hr' hx' (ih hq hqs hy hthere hqb hxb)
    | none =>
      by_cases hobj : ∃ ms, p.value = .obj ms
      · obtain ⟨ms, hv⟩ := hobj
        refine verdict_dressed_obj (hkeywords place) hv hr hs hout
          (hhere _ Relation.ReflTransGen.refl) hb fun rule hrule x hx w c hc => ?_
        obtain ⟨k, hk⟩ := exists_part hrule hx
        obtain ⟨hmeets, hin⟩ := meets_part hv hr hs.self hk hout
        have hpart : s.Applies p.origin { p.origin with value := x } :=
          Applies.part hv hr hrule hx
        exact ih (p := { p with value := x }) (Relation.ReflTransGen.trans hp hmeets)
          (hs.applies hpart) hin (fun o ho => hhere o (Relation.ReflTransGen.head hpart ho))
          (fun o ho => hbeyond o (ho.head (Relation.ReflTransGen.single hpart))) hc
      · exact verdict_dressed_other (fun ms hv => hobj ⟨ms, hv⟩) hout hb

end MessageContract.Sources
