import MessageContract.Proofs.Reference.Circular
import MessageContract.Proofs.Reference.Leftover

/-!
# Inlining as substitution

Where every reference that inlining comes to names a value, and no circle of references is reached,
every reference gives way to what it names (`Sources.GivesWay`). Then what is under way never makes
a difference (`Sources.GivesWay.inlined_eq`): each value has one expansion (`Sources.expand`), a
reference has that of its target, and all else is copied around the expansions of its parts
(`Sources.substitutes`). An object with a text under `$ref` comes out only where a reference object
stood under `$ref`.
-/

namespace MessageContract

namespace Json

/-- The values right inside a value changed one by one; names and order stay. -/
def mapChildren (f : Json → Json) : Json → Json
  | .obj ms => .obj (ms.map fun m => (m.1, f m.2))
  | .arr items => .arr (items.map f)
  | v => v

/-- Some object in the value has a text under `$ref`. -/
def HasReference (v : Json) : Prop := ∃ h r, v.Holds h ∧ h.reference? = some r

theorem mapChildren_congr {f g : Json → Json} {v : Json} (h : ∀ w ∈ v.children, f w = g w) :
    v.mapChildren f = v.mapChildren g := by
  cases v with
  | obj ms =>
    refine congrArg Json.obj (List.map_congr_left fun m hm => ?_)
    rw [h m.2 (List.mem_map.2 ⟨m, hm, rfl⟩)]
  | arr items => exact congrArg Json.arr (List.map_congr_left h)
  | _ => rfl

theorem mapChildren_id (v : Json) : v.mapChildren id = v := by
  cases v with
  | obj ms => exact congrArg Json.obj (List.map_id ms)
  | arr items => exact congrArg Json.arr (List.map_id items)
  | _ => rfl

theorem step?_mapChildren (f : Json → Json) (v : Json) (segment : List Char) :
    Pointer.step? segment (v.mapChildren f) = (Pointer.step? segment v).map f := by
  cases v with
  | obj ms => exact Members.get?_map (fun _ => f) ms (String.ofList segment)
  | arr items =>
    simp only [mapChildren, Pointer.step?, Option.map_bind]
    exact Option.bind_congr fun i _ => List.getElem?_map
  | _ => rfl

theorem hasReference_iff {v : Json} : v.HasReference ↔
    (∃ r, v.reference? = some r) ∨ ∃ w ∈ v.children, w.HasReference := by
  simpa only [HasReference, exists_and_left] using
    exists_holds_iff (P := fun u => ∃ r, u.reference? = some r)

end Json

namespace Sources

variable (s : Sources)

/-- Every reference that inlining comes to from the point gives way to what it names. -/
def GivesWay (p : Point) : Prop :=
  ∀ q r, s.Meets p q → q.value.reference? = some r → ∃ q', s.Enters q q'

/-- A value of the document at `base` with the references in it inlined, starting with nothing under
way. -/
def expand (base : Location) (v : Json) : Json := s.inlined s.bound [] base v

/-- At the point stands an object with a reference object under `$ref` that leads to a text. -/
def MakesReference (p : Point) : Prop :=
  ∃ ms h q text, p.value = .obj ms ∧ p.value.reference? = none ∧ Members.get? ms "$ref" = some h ∧
    s.Leads { p with value := h } q ∧ q.value = .str text

variable {s} {p : Point}

/-! ## References that give way -/

theorem GivesWay.of_meets (h : s.GivesWay p) {q : Point} (hq : s.Meets p q) : s.GivesWay q :=
  fun q' r hq' hr => h q' r (Relation.ReflTransGen.trans hq hq') hr

/-- Without circles every reference that names a value gives way to it. -/
theorem givesWay_start
    (hfound : ∀ p r, s.Meets s.start p → p.value.reference? = some r → s.target? p.base r ≠ none)
    (hacyclic : ∀ t, s.Reached t → ¬ Relation.TransGen s.Edge t t) : s.GivesWay s.start := by
  intro q r hq hr
  obtain ⟨⟨t, v⟩, ht⟩ := Option.ne_none_iff_exists'.1 (hfound q r hq hr)
  have hfresh : q.stack.any (· == t) = false := by
    rw [Bool.eq_false_iff]
    intro hany
    obtain ⟨hreached, hcircle⟩ := hq.closes hr ht hany
    exact hacyclic t hreached hcircle
  exact ⟨_, .mk hr ht hfresh⟩

/-- Where references give way nothing is found. -/
theorem GivesWay.walk_eq (h : s.GivesWay p) (hp : s.Sound p) {fuel : Nat}
    (hfuel : s.bound ≤ fuel + p.stack.length) (path : List String) :
    walk (s.follow fuel p.stack p.base) path p.value =
      ⟨s.inlined fuel p.stack p.base p.value, []⟩ := by
  have hnil : (walk (s.follow fuel p.stack p.base) path p.value).findings = [] := by
    rw [List.eq_nil_iff_forall_not_mem]
    intro f hf
    obtain ⟨q, r, _, message, hq, hr, hmet, -⟩ := hp.exists_refused hfuel hf
    obtain ⟨q', henters⟩ := h q r hq hr
    obtain ⟨hr', ht, hfresh⟩ := henters
    obtain rfl := Option.some.inj (hr.symm.trans hr')
    cases (encounter_of_enters ht hfresh).symm.trans hmet
  rw [← walk_eq_inlined path, ← hnil]

/-- What is met with nothing under way is met on top of what is under way. -/
theorem GivesWay.meets_above {stack : List Target} {base : Location} {v : Json}
    (h : s.GivesWay ⟨stack, base, v⟩) {q : Point} (hq : s.Meets ⟨[], base, v⟩ q) :
    s.Meets ⟨stack, base, v⟩ ⟨q.stack ++ stack, q.base, q.value⟩ := by
  induction hq with
  | refl => exact Meets.refl _
  | tail _ hstep ih =>
    refine Relation.ReflTransGen.tail ih ?_
    cases hstep with
    | part hr hw => exact .part hr hw
    | enter he =>
      obtain ⟨hr, ht, _⟩ := he
      obtain ⟨q', hr', ht', hfresh⟩ := h _ _ ih hr
      obtain rfl := Option.some.inj (hr.symm.trans hr')
      obtain ⟨rfl, rfl⟩ := target?_unique ht ht'
      exact .enter (.mk hr ht hfresh)

/-- References that give way do so with nothing under way. -/
theorem GivesWay.alone {stack : List Target} {base : Location} {v : Json}
    (h : s.GivesWay ⟨stack, base, v⟩) : s.GivesWay ⟨[], base, v⟩ := by
  intro q r hq hr
  obtain ⟨q', hr', ht, hfresh⟩ := h _ r (h.meets_above hq) hr
  rw [List.any_append, Bool.or_eq_false_iff] at hfresh
  exact ⟨_, .mk hr' ht hfresh.1⟩

theorem Sound.alone {stack : List Target} {base : Location} {v : Json}
    (h : s.Sound ⟨stack, base, v⟩) : s.Sound ⟨[], base, v⟩ where
  distinct := List.Pairwise.nil
  named t ht := by cases ht
  stands := h.stands

/-! ## What is under way does not matter -/

theorem inlined_mapChildren {fuel : Nat} {stack : List Target} {base : Location} {v : Json}
    (hr : v.reference? = none) :
    s.inlined fuel stack base v = v.mapChildren (s.inlined fuel stack base) := by
  cases v with
  | obj ms => exact inlined_obj hr
  | arr xs => exact inlined_arr xs
  | _ => rfl

theorem Enters.inlined_eq {q : Point} (h : s.Enters p q) (n : Nat) :
    s.inlined (n + 1) p.stack p.base p.value = s.inlined n q.stack q.base q.value :=
  congrArg Inlined.value (h.walk_eq n [])

/-- Where references give way in both cases, it makes no difference what is under way. -/
theorem GivesWay.inlined_eq {fuel fuel' : Nat} {σ τ : List Target} {base : Location} {v : Json}
    (h : s.GivesWay ⟨σ, base, v⟩) (hsound : s.Sound ⟨σ, base, v⟩)
    (hfuel : s.bound ≤ fuel + σ.length) (h' : s.GivesWay ⟨τ, base, v⟩)
    (hsound' : s.Sound ⟨τ, base, v⟩) (hfuel' : s.bound ≤ fuel' + τ.length) :
    s.inlined fuel σ base v = s.inlined fuel' τ base v := by
  induction fuel using Nat.strongRecOn generalizing fuel' σ τ base v with
  | _ fuel ihFuel =>
    induction v using Json.children_induction with
    | _ v ih =>
      cases hr : v.reference? with
      | some r =>
        obtain ⟨q, he⟩ := h ⟨σ, base, v⟩ r (Meets.refl _) hr
        obtain ⟨q', he'⟩ := h' ⟨τ, base, v⟩ r (Meets.refl _) hr
        obtain ⟨n, rfl, hn⟩ := hsound.fuel he hfuel
        obtain ⟨n', rfl, hn'⟩ := hsound'.fuel he' hfuel'
        have hstep := he.inlined_eq n
        have hstep' := he'.inlined_eq n'
        have hway := h.of_meets (Relation.ReflTransGen.single (Step.enter he))
        have hway' := h'.of_meets (Relation.ReflTransGen.single (Step.enter he'))
        have hq := he.sound hsound
        have hq' := he'.sound hsound'
        obtain ⟨hr₁, ht, _⟩ := he
        obtain ⟨hr₂, ht', _⟩ := he'
        obtain rfl := Option.some.inj (hr₁.symm.trans hr₂)
        obtain ⟨rfl, rfl⟩ := target?_unique ht ht'
        rw [hstep, hstep']
        exact ihFuel n (Nat.lt_succ_self n) hway hq hn hway' hq' hn'
      | none =>
        rw [inlined_mapChildren hr, inlined_mapChildren hr]
        refine Json.mapChildren_congr fun w hw => ?_
        have hpart : ∀ stack, s.Step ⟨stack, base, v⟩ ⟨stack, base, w⟩ := fun _ => .part hr hw
        exact ih w hw (h.of_meets (Relation.ReflTransGen.single (hpart σ)))
          ((hpart σ).sound hsound) (h'.of_meets (Relation.ReflTransGen.single (hpart τ)))
          ((hpart τ).sound hsound')

/-- Where references give way each value comes out as its expansion. -/
theorem GivesWay.expands (h : s.GivesWay p) (hp : s.Sound p) {fuel : Nat}
    (hfuel : s.bound ≤ fuel + p.stack.length) (path : List String) :
    walk (s.follow fuel p.stack p.base) path p.value = ⟨s.expand p.base p.value, []⟩ := by
  rw [h.walk_eq hp hfuel path]
  exact congrArg (Inlined.mk · [])
    (h.inlined_eq hp hfuel h.alone hp.alone (Nat.le_add_right s.bound 0))

/-- A reference that gives way has the expansion of what it names. -/
theorem GivesWay.expand_reference (h : s.GivesWay p) (hp : s.Sound p) {r : String} {t : Target}
    {v : Json} (hr : p.value.reference? = some r) (ht : s.target? p.base r = some (t, v)) :
    s.expand p.base p.value = s.expand t.location v := by
  have hpath := h.expands hp (Nat.le_add_right s.bound p.stack.length) []
  obtain ⟨q, he⟩ := h p r (Meets.refl p) hr
  obtain ⟨n, hfuel, hn⟩ := hp.fuel he (Nat.le_add_right s.bound p.stack.length)
  have hq := (h.of_meets (Relation.ReflTransGen.single (Step.enter he))).expands (he.sound hp) hn []
  rw [hfuel, he.walk_eq n [], hq] at hpath
  obtain ⟨hr', ht', _⟩ := he
  obtain rfl := Option.some.inj (hr.symm.trans hr')
  obtain ⟨rfl, rfl⟩ := target?_unique ht ht'
  exact (congrArg Inlined.value hpath).symm

/-! ## What is copied -/

theorem expand_plain {base : Location} {v : Json} (h : ¬ v.HasReference) : s.expand base v = v := by
  induction v using Json.children_induction with
  | _ v ih =>
    obtain ⟨hself, hparts⟩ := not_or.1 (mt Json.hasReference_iff.2 h)
    have hr : v.reference? = none :=
      Option.eq_none_iff_forall_ne_some.2 fun r hr => hself ⟨r, hr⟩
    rw [expand, inlined_mapChildren hr]
    refine (Json.mapChildren_congr fun w hw => ?_).trans v.mapChildren_id
    exact ih w hw fun hx => hparts ⟨w, hw, hx⟩

theorem follow?_expand {base : Location} {segments : List (List Char)} {v : Json}
    (h : Pointer.IsStraight segments v) :
    Pointer.follow? segments (s.expand base v) =
      (Pointer.follow? segments v).map (s.expand base) := by
  induction segments generalizing v with
  | nil => rfl
  | cons segment rest ih =>
    have hparts : s.expand base v = v.mapChildren (s.expand base) := inlined_mapChildren h.1
    rw [Pointer.follow?, Pointer.follow?, hparts, Json.step?_mapChildren]
    cases hw : Pointer.step? segment v with
    | none => rfl
    | some w => exact ih (h.2 w hw)

/-! ## Texts under `$ref` -/

/-- Where references give way a text comes out under `$ref` only where inlining puts it. -/
theorem exists_makesReference (h : s.GivesWay s.start) {fuel : Nat} {stack : List Target}
    {base : Location} {v out : Json} (hin : s.Inlines fuel stack base v out)
    (hmeets : s.Meets s.start ⟨stack, base, v⟩) (hout : out.HasReference) :
    ∃ q, s.Meets s.start q ∧ s.MakesReference q := by
  refine Inlines.induction (P := fun stack base v out => s.Meets s.start ⟨stack, base, v⟩ →
    out.HasReference → ∃ q, s.Meets s.start q ∧ s.MakesReference q)
    ?_ ?_ ?_ ?_ ?_ ?_ hin hmeets hout
  · intro stack base v hv hr _ hout
    rcases Json.hasReference_iff.1 hout with ⟨r, hr'⟩ | ⟨w, hw, _⟩
    · cases hr.symm.trans hr'
    · rw [hv] at hw
      cases hw
  · intro stack base xs ys hall hmeets hout
    rcases Json.hasReference_iff.1 hout with ⟨r, hr⟩ | ⟨y, hy, hout⟩
    · cases hr
    · obtain ⟨x, hx, hxy⟩ := forall₂_mem_right hall hy
      exact hxy (Relation.ReflTransGen.tail hmeets (.part rfl hx)) hout
  · intro fuel stack base ms ns hr hin hall hmeets hout
    rcases Json.hasReference_iff.1 hout with ⟨r, hr'⟩ | ⟨w, hw, hout⟩
    · obtain ⟨x, hget, hinx⟩ := forall₂_get?_right hin (get?_of_reference? hr')
      obtain ⟨q, hq, htext⟩ := (hinx.str_iff r).1 rfl
      exact ⟨_, hmeets, ms, x, q, r, rfl, hr, hget, hq, htext⟩
    · obtain ⟨n, hn, rfl⟩ := List.mem_map.1 hw
      obtain ⟨m, hm, _, hmn⟩ := forall₂_mem_right hall hn
      exact hmn (Relation.ReflTransGen.tail hmeets (.part hr (List.mem_map.2 ⟨m, hm, rfl⟩))) hout
  · intro stack base v r hr hnone hmeets _
    obtain ⟨q, hr', ht, _⟩ := h _ r hmeets hr
    obtain rfl := Option.some.inj (hr.symm.trans hr')
    exact absurd hnone (find?_of_target? ht)
  · intro stack base v r t w hr ht hany _ hmeets _
    obtain ⟨q, hr', ht', hfresh⟩ := h _ r hmeets hr
    obtain rfl := Option.some.inj (hr.symm.trans hr')
    obtain ⟨rfl, rfl⟩ := target?_unique ht ht'
    cases hany.symm.trans hfresh
  · intro stack base v r t w out hr ht hfresh ih hmeets
    exact ih (Relation.ReflTransGen.tail hmeets (.enter (.mk hr ht hfresh)))

/-- A text that is put under `$ref` stays in what comes out. -/
theorem MakesReference.hasReference (h : s.MakesReference p) {fuel : Nat} {out : Json}
    (hin : s.Inlines fuel p.stack p.base p.value out) : out.HasReference := by
  obtain ⟨ms, v, q, text, hvalue, hr, hget, hq, htext⟩ := h
  rw [hvalue] at hr hin
  obtain ⟨ns, rfl, hall⟩ := inlines_obj hr hin
  obtain ⟨x, hgetx, hinx⟩ := forall₂_get? hall hget
  obtain rfl := (hinx.str_iff text).2 ⟨q, hq, htext⟩
  exact Json.hasReference_iff.2 (Or.inl ⟨text, by rw [Json.reference?, hgetx]⟩)

/-! ## Substitution -/

/-- Inlining is substitution. -/
structure Substitutes (s : Sources) : Prop where
  /-- Nothing is found, and the root document comes out as its expansion. -/
  root : s.inline = ⟨s.expand s.location s.root, []⟩
  /-- Wherever inlining comes to, whatever is under way there, the value comes out as its
  expansion. -/
  everywhere : ∀ p fuel path, s.Meets s.start p → s.bound ≤ fuel + p.stack.length →
    walk (s.follow fuel p.stack p.base) path p.value = ⟨s.expand p.base p.value, []⟩
  /-- The expansion of a reference is that of its target, -/
  site : ∀ p r t v, s.Meets s.start p → p.value.reference? = some r →
    s.target? p.base r = some (t, v) → s.expand p.base p.value = s.expand t.location v
  /-- so references that name one target have one expansion. -/
  shared : ∀ p p' r r' t t' v v', s.Meets s.start p → p.value.reference? = some r →
    s.target? p.base r = some (t, v) → s.Meets s.start p' → p'.value.reference? = some r' →
    s.target? p'.base r' = some (t', v') → (t == t') = true →
    s.expand p.base p.value = s.expand p'.base p'.value
  /-- All else is copied around the expansions of its parts. -/
  copied : ∀ base v, v.reference? = none → s.expand base v = v.mapChildren (s.expand base)
  /-- A place that no reference object is passed on the way to is the same place in what comes
  out. -/
  places : ∀ base segments v, Pointer.IsStraight segments v →
    Pointer.follow? segments (s.expand base v) = (Pointer.follow? segments v).map (s.expand base)
  /-- A value without references is its own expansion. -/
  plain : ∀ base v, ¬ v.HasReference → s.expand base v = v
  /-- An object with a text under `$ref` comes out exactly if inlining comes to one with a reference
  object under `$ref` that leads to a text. -/
  hasReference_iff : s.inline.value.HasReference ↔ ∃ p, s.Meets s.start p ∧ s.MakesReference p

/-- Inlining is substitution if all references that it comes to name values, and no circle of
references is reached. -/
theorem substitutes
    (hfound : ∀ p r, s.Meets s.start p → p.value.reference? = some r → s.target? p.base r ≠ none)
    (hacyclic : ∀ t, s.Reached t → ¬ Relation.TransGen s.Edge t t) : s.Substitutes := by
  have hway : s.GivesWay s.start := givesWay_start hfound hacyclic
  have hsound : ∀ {p}, s.Meets s.start p → s.Sound p := fun hp => hp.sound (sound_start s)
  have hsite : ∀ p r t v, s.Meets s.start p → p.value.reference? = some r →
      s.target? p.base r = some (t, v) → s.expand p.base p.value = s.expand t.location v :=
    fun p r t v hp hr ht => (hway.of_meets hp).expand_reference (hsound hp) hr ht
  have hroot : s.inline = ⟨s.expand s.location s.root, []⟩ :=
    hway.expands (sound_start s) (Nat.le_add_right s.bound 0) []
  have hinlines : s.Inlines s.bound s.start.stack s.start.base s.start.value s.inline.value :=
    inlines_root (congrArg Inlined.findings hroot)
  refine ⟨hroot, fun p fuel path hp hfuel => (hway.of_meets hp).expands (hsound hp) hfuel path,
    hsite, ?_, fun _ _ hr => inlined_mapChildren hr, fun _ _ _ hs => follow?_expand hs,
    fun _ _ hv => expand_plain hv,
    fun hout => exists_makesReference hway hinlines (Meets.refl _) hout, ?_⟩
  · intro p p' r r' t t' v v' hp hr ht hp' hr' ht' hsame
    obtain ⟨rfl, rfl⟩ := (names_of_target? ht).unique (names_of_target? ht') hsame
    rw [hsite p r t v hp hr ht, hsite p' r' t v hp' hr' ht']
  · rintro ⟨p, hp, hmakes⟩
    obtain ⟨n, out, hin, hholds⟩ := hinlines.of_meets hp
    obtain ⟨h, r, hh, hr⟩ := hmakes.hasReference hin
    exact ⟨h, r, hholds.trans hh, hr⟩

/-! ## Documents without circles -/

theorem found_of_parts (h : ∀ d ∈ s.documents, ∀ v ∈ d.2.parts, ∀ r ∈ v.reference?,
    (s.target? d.1 r).isSome = true) {r : String} (hp : s.Meets s.start p)
    (hr : p.value.reference? = some r) : s.target? p.base r ≠ none := by
  obtain ⟨d, hd, hbase, hholds⟩ := hp.stands (stands_start s)
  rw [← hbase]
  exact Option.isSome_iff_ne_none.1 (h d hd p.value hholds.mem_parts r hr)

theorem Reached.isNamed {t : Target} (h : s.Reached t) : s.IsNamed t := by
  obtain ⟨t₀, ⟨x, r, v, hsees, hr, ht⟩, hpath⟩ := h
  rcases Relation.ReflTransGen.cases_tail hpath with rfl | ⟨u, -, hedge⟩
  · exact ⟨_, List.mem_cons_self, x, r, v, hsees.holds, hr, ht⟩
  · obtain ⟨w, ⟨d, hd, hbase, hw⟩, x, r, v, hsees, hr, ht⟩ := hedge
    exact ⟨d, find?_mem hd, x, r, v, (Json.holds_of_pointer hw).trans hsees.holds, hr, hbase ▸ ht⟩

/-- There is no circle if targets rank above those that their values refer to. -/
theorem acyclic_of_rank (rank : Target → Nat)
    (h : ∀ d ∈ s.documents, ∀ v ∈ d.2.parts, ∀ r ∈ v.reference?, ∀ x ∈ s.target? d.1 r,
      ∀ w ∈ x.2.parts, ∀ r' ∈ w.reference?, ∀ y ∈ s.target? x.1.location r',
        rank y.1 < rank x.1) {t : Target} (ht : s.Reached t) :
    ¬ Relation.TransGen s.Edge t t := by
  have hedge : ∀ t t', s.Reached t → s.Edge t t' → rank t' < rank t := by
    rintro t t' hreached ⟨v, hv, x, r', w, hsees, hr', ht'⟩
    obtain ⟨d, hd, u, r, v', hholds, hr, ht⟩ := hreached.isNamed
    obtain ⟨-, rfl⟩ := hv.unique (names_of_target? ht) (BEq.refl t)
    exact h d hd u hholds.mem_parts r hr _ ht x hsees.holds.mem_parts r' hr' _ ht'
  have hpath : ∀ t', Relation.TransGen s.Edge t t' → s.Reached t' ∧ rank t' < rank t := by
    intro t' hpath
    induction hpath with
    | single he =>
      obtain ⟨t₀, hcalls, hway⟩ := ht
      exact ⟨⟨t₀, hcalls, hway.tail he⟩, hedge _ _ ⟨t₀, hcalls, hway⟩ he⟩
    | tail _ he ih =>
      obtain ⟨⟨t₀, hcalls, hway⟩, hlt⟩ := ih
      exact ⟨⟨t₀, hcalls, hway.tail he⟩, (hedge _ _ ⟨t₀, hcalls, hway⟩ he).trans hlt⟩
  exact fun hcircle => absurd (hpath t hcircle).2 (lt_irrefl _)

/-- A document that names a value of another one twice, once through a list of its own. -/
def sharedTypes : Sources where
  root := .obj [("first", .obj [("$ref", .str "types.json#/user")]),
    ("all", .obj [("$ref", .str "#/list")]),
    ("list", .arr [.obj [("$ref", .str "types.json#/user")]])]
  location := .file (.ofString "/specs/asyncapi.json")
  store := [(.file (.ofString "/specs/types.json"),
    .obj [("user", .obj [("id", .obj [("$ref", .str "#/id")])]),
      ("id", .obj [("type", .str "string")])])]

theorem substitutes_sharedTypes : sharedTypes.Substitutes := by
  have hparts : ∀ d ∈ sharedTypes.documents, ∀ v ∈ d.2.parts, ∀ r ∈ v.reference?,
      (sharedTypes.target? d.1 r).isSome = true := by decide +kernel
  have hrank : ∀ d ∈ sharedTypes.documents, ∀ v ∈ d.2.parts, ∀ r ∈ v.reference?,
      ∀ x ∈ sharedTypes.target? d.1 r, ∀ w ∈ x.2.parts, ∀ r' ∈ w.reference?,
      ∀ y ∈ sharedTypes.target? x.1.location r',
        ["/id", "/user", "/list"].idxOf y.1.pointer <
          ["/id", "/user", "/list"].idxOf x.1.pointer := by decide +kernel
  exact substitutes (fun p r hp hr => found_of_parts hparts hp hr)
    fun t ht => acyclic_of_rank (fun t => ["/id", "/user", "/list"].idxOf t.pointer) hrank ht

/-- A reference object under `$ref`, to a text that could be a reference. -/
def textUnderRef : Sources where
  root := .obj [("a", .obj [("$ref", .obj [("$ref", .str "#/x")])]), ("x", .str "#/y"),
    ("y", .bool true)]
  location := .inline
  store := []

/-- Nothing is found, and yet an object with a text under `$ref` comes out. -/
theorem hasReference_textUnderRef :
    (∀ p r, textUnderRef.Meets textUnderRef.start p → p.value.reference? = some r →
      textUnderRef.target? p.base r ≠ none) ∧
    (∀ t, textUnderRef.Reached t → ¬ Relation.TransGen textUnderRef.Edge t t) ∧
    textUnderRef.inline.findings = [] ∧ textUnderRef.inline.value.HasReference := by
  have hparts : ∀ d ∈ textUnderRef.documents, ∀ v ∈ d.2.parts, ∀ r ∈ v.reference?,
      (textUnderRef.target? d.1 r).isSome = true := by decide +kernel
  have hrank : ∀ d ∈ textUnderRef.documents, ∀ v ∈ d.2.parts, ∀ r ∈ v.reference?,
      ∀ x ∈ textUnderRef.target? d.1 r, ∀ w ∈ x.2.parts, ∀ r' ∈ w.reference?,
      ∀ y ∈ textUnderRef.target? x.1.location r', 0 < 0 := by decide +kernel
  have hout : (textUnderRef.inline.value.pointer? "/a").bind Json.reference? = some "#/y" := by
    decide +kernel
  obtain ⟨h, hh, hr⟩ := Option.bind_eq_some_iff.1 hout
  exact ⟨fun p r hp hr => found_of_parts hparts hp hr,
    fun t ht => acyclic_of_rank (fun _ => 0) hrank ht, by decide +kernel,
    h, _, Json.holds_of_pointer hh, hr⟩

end Sources
end MessageContract
