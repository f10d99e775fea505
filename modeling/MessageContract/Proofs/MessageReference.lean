import MessageContract.Proofs.Outcome
import MessageContract.Proofs.Reference.Leftover
import MessageContract.Proofs.Reference.Origin
import MessageContract.Proofs.Reference.Stack

/-!
# Messages that stay references

What comes out under some names is a reference exactly where inlining leaves one
(`Sources.LeavesReference`): at a reference that is not followed and of which nothing is told
(`Sources.Stays`), beside one, or where the text of a reference is put under `$ref`. References that
are followed come to an end (`Sources.Sound.exists_end`), so a circle of references either stays or
is told of; it is told of where it closes outside of the root document, and stays where it closes in
it. So it is for the messages of a document too (`Parse.run_messageReferences`).
-/

namespace MessageContract

namespace Json

/-- The second value stands in the first under the names, one inside the other. -/
inductive Shows : Json → List String → Json → Prop
  | here (v : Json) : Shows v [] v
  | member {ms : Members} {name : String} {u w : Json} {names : List String}
      (mem : (name, u) ∈ ms) (rest : Shows u names w) : Shows (.obj ms) (name :: names) w

/-- Members stand under their names. -/
theorem shows_of_foldlM {v w : Json} {names : List String}
    (h : names.foldlM get? v = some w) : v.Shows names w := by
  induction names generalizing v with
  | nil => exact Option.some.inj h ▸ .here v
  | cons name names ih =>
    rw [List.foldlM_cons] at h
    obtain ⟨u, hu, hw⟩ := Option.bind_eq_some_iff.1 h
    cases v with
    | obj ms => exact .member (Members.mem_of_get? hu) (ih hw)
    | _ => cases hu

/-- A reference object stands in the value under the names. -/
def ShowsReference (v : Json) (names : List String) : Prop :=
  ∃ w r, v.Shows names w ∧ w.reference? = some r

theorem showsReference_nil {v : Json} : v.ShowsReference [] ↔ ∃ r, v.reference? = some r := by
  constructor
  · rintro ⟨w, r, ⟨⟩, hr⟩
    exact ⟨r, hr⟩
  · rintro ⟨r, hr⟩
    exact ⟨v, r, .here v, hr⟩

theorem showsReference_cons {v : Json} {name : String} {names : List String} :
    v.ShowsReference (name :: names) ↔
      ∃ ms u, v = .obj ms ∧ (name, u) ∈ ms ∧ u.ShowsReference names := by
  constructor
  · rintro ⟨w, r, ⟨⟩, hr⟩
    next ms u hmem hrest => exact ⟨ms, u, rfl, hmem, w, r, hrest, hr⟩
  · rintro ⟨ms, u, rfl, hmem, w, r, hw, hr⟩
    exact ⟨w, r, .member hmem hw, hr⟩

/-- A value without members shows no reference. -/
theorem not_showsReference {v : Json} (hr : v.reference? = none) (hv : ∀ ms, v = .obj ms → ms = [])
    (names : List String) : ¬ v.ShowsReference names := by
  cases names with
  | nil =>
    rw [showsReference_nil, hr]
    rintro ⟨r, hr'⟩
    cases hr'
  | cons name names =>
    rw [showsReference_cons]
    rintro ⟨ms, u, hobj, hmem, _⟩
    rw [hv ms hobj] at hmem
    cases hmem

theorem not_showsReference_str (text : String) (names : List String) :
    ¬ (Json.str text).ShowsReference names :=
  not_showsReference rfl (by simp) names

end Json

namespace Sources

/-- A reference stays, and nothing is told of it: its document is not there, or it is kept as an
edge back. -/
inductive Stays (s : Sources) (p : Point) : Prop
  | unfound {r : String} (reference : p.value.reference? = some r)
      (absent : s.find? p.base (Reference.document r) = none)
  | kept {r : String} {t : Target} {v : Json} (kept : s.Keeps p r t v)

/-- Inlining comes from one point to another under the names, through references. -/
inductive Along (s : Sources) : Point → List String → Point → Prop
  | here (p : Point) : Along s p [] p
  | enter {p p' q : Point} {names : List String} (entered : s.Enters p p')
      (rest : Along s p' names q) : Along s p names q
  | member {p q : Point} {ms : Members} {name : String} {u : Json} {names : List String}
      (value : p.value = .obj ms) (plain : p.value.reference? = none) (mem : (name, u) ∈ ms)
      (rest : Along s { p with value := u } names q) : Along s p (name :: names) q

/-- The text of a reference is put under `$ref`. -/
structure Makes (s : Sources) (p : Point) : Prop where
  plain : p.value.reference? = none
  text : ∃ ms h q t, p.value = .obj ms ∧ Members.get? ms "$ref" = some h ∧
    s.Leads { p with value := h } q ∧ q.value = .str t

/-- Under some names a reference is left: at a reference that stays, or beside one, or where one is
made. -/
def LeavesReference (s : Sources) (p : Point) (names : List String) : Prop :=
  ∃ front behind q, names = front ++ behind ∧ s.Along p front q ∧
    (s.Stays q ∧ q.value.ShowsReference behind ∨ behind = [] ∧ s.Makes q)

variable {s : Sources}

/-! ## Points along names -/

theorem Along.meets {p q : Point} {names : List String} (h : s.Along p names q) :
    s.Meets p q := by
  induction h with
  | here p => exact Meets.refl p
  | enter he _ ih => exact ih.enter he
  | member hv hr hmem _ ih => exact ih.part hr (hv ▸ List.mem_map.2 ⟨_, hmem, rfl⟩)

theorem Along.leads {p q q' : Point} {names : List String} (h : s.Along p names q)
    (hq : s.Leads q q') : s.Along p names q' := by
  induction h with
  | here p =>
    induction hq using Relation.ReflTransGen.head_induction_on with
    | refl => exact .here _
    | head he _ ih => exact .enter he ih
  | enter he _ ih => exact .enter he (ih hq)
  | member hv hr hmem _ ih => exact .member hv hr hmem (ih hq)

theorem Stays.exists_reference {p : Point} (h : s.Stays p) : ∃ r, p.value.reference? = some r := by
  cases h with
  | unfound hr _ => exact ⟨_, hr⟩
  | kept hk => exact ⟨_, hk.reference⟩

theorem Stays.not_plain {p : Point} (h : s.Stays p) : p.value.reference? ≠ none := by
  obtain ⟨r, hr⟩ := h.exists_reference
  rw [hr]
  exact Option.some_ne_none r

theorem Stays.not_enters {p q : Point} (h : s.Stays p) : ¬ s.Enters p q := by
  rintro ⟨hr, ht, hfresh⟩
  cases h with
  | unfound hr' hnone =>
    rw [← Option.some.inj (hr.symm.trans hr')] at hnone
    exact find?_of_target? ht hnone
  | kept hk =>
    obtain ⟨hr', ht', hany, _⟩ := hk
    obtain rfl := Option.some.inj (hr.symm.trans hr')
    rw [← (target?_unique ht ht').1, hfresh] at hany
    cases hany

/-! ## Where references are left -/

theorem leavesReference_nil_of_plain {p : Point} (hr : p.value.reference? = none) :
    s.LeavesReference p [] ↔ s.Makes p := by
  constructor
  · rintro ⟨front, behind, q, hnames, halong, hleft⟩
    obtain ⟨rfl, rfl⟩ := List.append_eq_nil_iff.1 hnames.symm
    cases halong with
    | here =>
      rcases hleft with ⟨hstays, _⟩ | ⟨_, hmakes⟩
      · exact absurd hr hstays.not_plain
      · exact hmakes
    | enter he _ => exact absurd hr he.not_plain
  · intro hmakes
    exact ⟨[], [], p, rfl, .here p, Or.inr ⟨rfl, hmakes⟩⟩

theorem leavesReference_cons_of_plain {p : Point} {name : String} {names : List String}
    (hr : p.value.reference? = none) :
    s.LeavesReference p (name :: names) ↔ ∃ ms u, p.value = .obj ms ∧ (name, u) ∈ ms ∧
      s.LeavesReference { p with value := u } names := by
  constructor
  · rintro ⟨front, behind, q, hnames, halong, hleft⟩
    cases halong with
    | here =>
      rcases hleft with ⟨hstays, _⟩ | ⟨rfl, _⟩
      · exact absurd hr hstays.not_plain
      · cases hnames
    | enter he _ => exact absurd hr he.not_plain
    | member hv _ hmem hrest =>
      obtain ⟨rfl, htail⟩ := List.cons.inj hnames
      exact ⟨_, _, hv, hmem, _, behind, q, htail, hrest, hleft⟩
  · rintro ⟨ms, u, hv, hmem, front, behind, q, rfl, halong, hleft⟩
    exact ⟨name :: front, behind, q, rfl, .member hv hr hmem halong, hleft⟩

/-- At a value without members no reference is left. -/
theorem not_leavesReference {p : Point} (hr : p.value.reference? = none)
    (hv : ∀ ms, p.value = .obj ms → ms = []) (names : List String) :
    ¬ s.LeavesReference p names := by
  cases names with
  | nil =>
    rw [leavesReference_nil_of_plain hr]
    rintro ⟨_, ms, h, _, _, hobj, hget, _⟩
    rw [hv ms hobj] at hget
    cases hget
  | cons name names =>
    rw [leavesReference_cons_of_plain hr]
    rintro ⟨ms, u, hobj, hmem, _⟩
    rw [hv ms hobj] at hmem
    cases hmem

theorem leavesReference_of_enters {p p' : Point} {names : List String} (he : s.Enters p p') :
    s.LeavesReference p names ↔ s.LeavesReference p' names := by
  constructor
  · rintro ⟨front, behind, q, hnames, halong, hleft⟩
    cases halong with
    | here =>
      rcases hleft with ⟨hstays, _⟩ | ⟨_, hmakes⟩
      · exact absurd he hstays.not_enters
      · exact absurd hmakes.plain he.not_plain
    | enter he' hrest =>
      obtain rfl := he.unique he'
      exact ⟨front, behind, q, hnames, hrest, hleft⟩
    | member _ hr _ _ => exact absurd hr he.not_plain
  · rintro ⟨front, behind, q, hnames, halong, hleft⟩
    exact ⟨front, behind, q, hnames, .enter he halong, hleft⟩

theorem leavesReference_of_stays {p : Point} {names : List String} (h : s.Stays p) :
    s.LeavesReference p names ↔ p.value.ShowsReference names := by
  constructor
  · rintro ⟨front, behind, q, rfl, halong, hleft⟩
    cases halong with
    | here =>
      rcases hleft with ⟨_, hshows⟩ | ⟨_, hmakes⟩
      · exact hshows
      · exact absurd hmakes.plain h.not_plain
    | enter he _ => exact absurd he h.not_enters
    | member _ hr _ _ => exact absurd hr h.not_plain
  · intro hshows
    exact ⟨[], names, p, rfl, .here p, Or.inl ⟨h, hshows⟩⟩

/-! ## What comes out under names -/

/-- An edge back shows the references that stood there before. -/
theorem showsReference_backEdge {h : Json} {r : String} (hr : h.reference? = some r)
    (pointer : String) (names : List String) :
    (backEdge pointer h).ShowsReference names ↔ h.ShowsReference names := by
  cases names with
  | nil =>
    rw [Json.showsReference_nil, Json.showsReference_nil, reference?_backEdge hr, hr]
    exact iff_of_true ⟨_, rfl⟩ ⟨_, rfl⟩
  | cons name names =>
    obtain ⟨ms, rfl⟩ := reference?_obj hr
    rw [backEdge, Json.showsReference_cons, Json.showsReference_cons]
    constructor
    · rintro ⟨ns, u, heq, hmem, hu⟩
      obtain rfl := Json.obj.inj heq
      rcases Members.mem_insert hmem with heq | hmem
      · rw [(Prod.mk.inj heq).2] at hu
        exact absurd hu (Json.not_showsReference_str _ _)
      · exact ⟨ms, u, rfl, hmem, hu⟩
    · rintro ⟨ns, u, heq, hmem, hu⟩
      obtain rfl := Json.obj.inj heq
      refine ⟨_, u, rfl, ?_, hu⟩
      rcases Members.mem_insert_of_mem hmem "$ref" (.str ("#" ++ pointer)) with hmem | hget
      · exact hmem
      · rw [get?_of_reference? hr] at hget
        obtain rfl : Json.str r = u := Option.some.inj hget
        exact absurd hu (Json.not_showsReference_str _ _)

/-- In an object a reference comes out where one came out of a member, or where one is made. -/
theorem showsReference_obj_iff {fuel : Nat} {stack : List Target} {base : Location}
    {ms ns : Members} (hr : (Json.obj ms).reference? = none)
    (hin : List.Forall₂ (fun m n => m.1 = n.1 ∧ s.Inlines fuel stack base m.2 n.2) ms ns)
    (hall : List.Forall₂ (fun m n => m.1 = n.1 ∧ ∀ names,
      n.2.ShowsReference names ↔ s.LeavesReference ⟨stack, base, m.2⟩ names) ms ns)
    (names : List String) :
    (Json.obj ns).ShowsReference names ↔ s.LeavesReference ⟨stack, base, .obj ms⟩ names := by
  cases names with
  | nil =>
    rw [Json.showsReference_nil, leavesReference_nil_of_plain (p := ⟨stack, base, .obj ms⟩) hr]
    constructor
    · rintro ⟨r, href⟩
      obtain ⟨h, hget, hinh⟩ := forall₂_get?_right hin (get?_of_reference? href)
      obtain ⟨q, hq, htext⟩ := (hinh.str_iff r).1 rfl
      exact ⟨hr, ms, h, q, r, rfl, hget, hq, htext⟩
    · rintro ⟨_, _, h, q, text, hobj, hget, hleads, htext⟩
      obtain rfl := Json.obj.inj hobj
      obtain ⟨x, hgetx, hinh⟩ := forall₂_get? hin hget
      obtain rfl := (hinh.str_iff text).2 ⟨q, hleads, htext⟩
      exact ⟨text, by rw [Json.reference?, hgetx]⟩
  | cons name names =>
    rw [Json.showsReference_cons,
      leavesReference_cons_of_plain (p := ⟨stack, base, .obj ms⟩) hr]
    constructor
    · rintro ⟨_, u, hobj, hmem, hu⟩
      obtain rfl := Json.obj.inj hobj
      obtain ⟨m, hm, hname, hmn⟩ := forall₂_mem_right hall hmem
      obtain ⟨k, x⟩ := m
      obtain rfl : k = name := hname
      exact ⟨ms, x, rfl, hm, (hmn names).1 hu⟩
    · rintro ⟨_, u, hobj, hmem, hu⟩
      obtain rfl := Json.obj.inj hobj
      obtain ⟨n, hn, hname, hmn⟩ := forall₂_mem_left hall hmem
      obtain ⟨k, x⟩ := n
      obtain rfl : name = k := hname
      exact ⟨ns, x, rfl, hn, (hmn names).2 hu⟩

/-- A reference comes out under names exactly where one is left. -/
theorem Inlines.showsReference_iff {fuel : Nat} {stack : List Target} {base : Location}
    {v out : Json} (h : s.Inlines fuel stack base v out) (names : List String) :
    out.ShowsReference names ↔ s.LeavesReference ⟨stack, base, v⟩ names := by
  refine Inlines.induction (P := fun stack base v out => ∀ names,
    out.ShowsReference names ↔ s.LeavesReference ⟨stack, base, v⟩ names) ?_ ?_ ?_ ?_ ?_ ?_ h names
  · intro stack base v hv hr names
    have hempty : ∀ ms, v = .obj ms → ms = [] := by
      rintro ms rfl
      exact List.map_eq_nil_iff.1 hv
    exact iff_of_false (Json.not_showsReference hr hempty names)
      (not_leavesReference (p := ⟨stack, base, v⟩) hr hempty names)
  · intro stack base xs ys _ names
    exact iff_of_false (Json.not_showsReference rfl (by simp) names)
      (not_leavesReference (p := ⟨stack, base, .arr xs⟩) rfl (by simp) names)
  · intro fuel stack base ms ns hr hin hall names
    exact showsReference_obj_iff hr hin hall names
  · intro stack base h r hr hnone names
    rw [leavesReference_of_stays (p := ⟨stack, base, h⟩) (.unfound hr hnone)]
  · intro stack base h r t v hr ht hany hroot names
    rw [showsReference_backEdge hr,
      leavesReference_of_stays (p := ⟨stack, base, h⟩) (.kept ⟨hr, ht, hany, hroot⟩)]
  · intro stack base h r t v out hr ht hfresh ih names
    rw [ih names, leavesReference_of_enters (p := ⟨stack, base, h⟩) ⟨hr, ht, hfresh⟩]

/-! ## The end of references -/

/-- References that are followed come to an end: there is room for finitely many targets only. -/
theorem Sound.exists_end {p : Point} (hp : s.Sound p) :
    ∃ q, s.Leads p q ∧ ∀ q', ¬ s.Enters q q' := by
  induction hn : s.bound - p.stack.length using Nat.strongRecOn generalizing p with
  | _ n ih =>
    by_cases he : ∃ q, s.Enters p q
    · obtain ⟨q, he⟩ := he
      have hlt := hp.length_lt he
      have hlength : q.stack.length = p.stack.length + 1 := by
        obtain ⟨_, _, _⟩ := he
        rfl
      obtain ⟨q', hq', hend⟩ := ih (s.bound - q.stack.length) (by omega) (he.sound hp) rfl
      exact ⟨q', Relation.ReflTransGen.head he hq', hend⟩
    · exact ⟨p, Relation.ReflTransGen.refl, fun q hq => he ⟨q, hq⟩⟩

/-! ## Circles -/

/-- References come back to one that they came from. -/
def Circles (s : Sources) (o : Origin) : Prop :=
  ∃ o', Relation.ReflTransGen s.Refers o o' ∧ Relation.TransGen s.Refers o' o'

theorem Circles.exists_refers {o : Origin} (h : s.Circles o) : ∃ o', s.Refers o o' := by
  obtain ⟨o', hlead, hcircle⟩ := h
  rcases Relation.ReflTransGen.cases_head hlead with rfl | ⟨x, hx, _⟩
  · obtain ⟨x, hx, _⟩ := Relation.TransGen.head'_iff.1 hcircle
    exact ⟨x, hx⟩
  · exact ⟨x, hx⟩

theorem Circles.of_refers {o o₁ : Origin} (h : s.Circles o) (ho : s.Refers o o₁) :
    s.Circles o₁ := by
  obtain ⟨o', hlead, hcircle⟩ := h
  rcases Relation.ReflTransGen.cases_head hlead with rfl | ⟨x, hx, hrest⟩
  · obtain ⟨x, hx, hback⟩ := Relation.TransGen.head'_iff.1 hcircle
    obtain rfl := refers_unique hx ho
    exact ⟨o, hback, hcircle⟩
  · obtain rfl := refers_unique hx ho
    exact ⟨o', hrest, hcircle⟩

/-- A circle is followed until it comes to a target that is under way. -/
theorem Sound.exists_closing {p : Point} (hp : s.Sound p) (hcircle : s.Circles p.origin) :
    ∃ q r t v, s.Leads p q ∧ q.value.reference? = some r ∧ s.target? q.base r = some (t, v) ∧
      q.stack.any (· == t) = true := by
  obtain ⟨q, hq, hend⟩ := hp.exists_end
  have hlast : s.Circles q.origin := by
    clear hend
    induction hq with
    | refl => exact hcircle
    | tail _ he ih => exact ih.of_refers (refers_of_enters he)
  obtain ⟨o, r, hr, hresolve⟩ := hlast.exists_refers
  obtain ⟨⟨t, v⟩, ht, _⟩ := Option.map_eq_some_iff.1 hresolve
  refine ⟨q, r, t, v, hq, hr, ht, ?_⟩
  by_contra hany
  exact hend ⟨t :: q.stack, t.location, v⟩ ⟨hr, ht, Bool.eq_false_iff.2 hany⟩

end Sources

/-! ## Messages -/

namespace Parse

/-- What a parse makes of messages that are references. -/
structure MessageReferences (s : Sources) (p : Parse) : Prop where
  /-- In a document that comes out a message is a reference exactly if one is left there. -/
  left : ∀ d, p.document = some d → ∀ key,
    d.json.ShowsReference (Rules.messagePath key) ↔ s.LeavesReference s.start (Rules.messagePath key)
  /-- A message that is a circle of references is told of if the circle closes outside of the root
  document, and stays a reference if it closes in it. -/
  circles : ∀ key q, s.Along s.start (Rules.messagePath key) q → s.Circles q.origin →
    ∃ q' r t v, s.Leads q q' ∧ q'.value.reference? = some r ∧
      s.target? q'.base r = some (t, v) ∧ q'.stack.any (· == t) = true ∧
      ((t.location == s.location) = true → ∀ d, p.document = some d →
        d.json.ShowsReference (Rules.messagePath key)) ∧
      ((t.location == s.location) = false → p.document = none ∧
        ∃ f ∈ p.diagnostics, f.code = .invalidRef ∧
          f.message = "circular reference '" ++ r ++ "' inside a referenced document")

variable {w : World} {settings : FetchSettings} {options : ParseOptions} {location : Location}
  {input : Input} {raw : Json} {v : Version}

/-- What inlining finds is told, and no document comes out. -/
theorem refused_of_inline (options : ParseOptions) (hroot : root input = .ok raw)
    (hversion : Rules.version raw = .ok v) {f : Diagnostic}
    (hf : f ∈ (w.sources settings raw location).inline.findings) :
    (run w settings options location input).document = none ∧
      f ∈ (run w settings options location input).diagnostics := by
  have hrun := run_eq_judge w settings options location hroot hversion
  have htold : f ∈ (run w settings options location input).diagnostics := by
    rw [hrun]
    simp only [judge, List.mem_append]
    exact Or.inl (Or.inl (Or.inl (Or.inr hf)))
  refine ⟨?_, htold⟩
  have herror := (Sources.inline_findings _ f hf).isError
  rw [hrun] at htold ⊢
  exact judge_document_eq_none_iff.2 ⟨f, htold, herror⟩

/-- What every parse makes of messages that are references. -/
theorem run_messageReferences (hroot : root input = .ok raw) (hversion : Rules.version raw = .ok v) :
    MessageReferences (w.sources settings raw location)
      (run w settings options location input) where
  left d hd key := by
    obtain ⟨raw', hraw, hacc⟩ := accepted_of_document hd
    obtain rfl := Except.ok.inj (hroot.symm.trans hraw)
    have hjson : d.json = Sources.image _ (w.sources settings raw location).root := hacc.json
    rw [hjson]
    exact (Sources.inlines_root hacc.inlined).showsReference_iff (Rules.messagePath key)
  circles key q hq hcircle := by
    have hmeets := hq.meets
    have hsound := hmeets.sound (Sources.sound_start _)
    obtain ⟨q', r, t, value, hlead, hr, ht, hany⟩ := hsound.exists_closing hcircle
    refine ⟨q', r, t, value, hlead, hr, ht, hany, fun hin d hd => ?_, fun hout => ?_⟩
    · obtain ⟨raw', hraw, hacc⟩ := accepted_of_document hd
      obtain rfl := Except.ok.inj (hroot.symm.trans hraw)
      have hjson : d.json = Sources.image _ (w.sources settings raw location).root := hacc.json
      rw [hjson, (Sources.inlines_root hacc.inlined).showsReference_iff]
      have hstays : (w.sources settings raw location).Stays q' := .kept ⟨hr, ht, hany, hin⟩
      exact ⟨Rules.messagePath key, [], q', (List.append_nil _).symm, hq.leads hlead,
        Or.inl ⟨hstays, Json.showsReference_nil.2 ⟨r, hr⟩⟩⟩
    · have hmet := Sources.encounter_circular ht hany hout
      have hlast := Relation.ReflTransGen.trans hmeets (Sources.meets_of_leads hlead)
      obtain ⟨f, hf, hmessage⟩ := Sources.Meets.refused hlast hr hmet
      obtain ⟨hnone, htold⟩ := refused_of_inline options hroot hversion hf
      exact ⟨hnone, f, htold, (Sources.inline_findings _ f hf).code, hmessage⟩

/-- Two messages, one a reference to the other. -/
def messageChain : Json :=
  .obj [("asyncapi", .str "3.0.0"),
    ("info", .obj [("title", .str "t"), ("version", .str "1")]),
    ("components", .obj [("messages", .obj
      [("a", .obj [("$ref", .str "#/components/messages/b")]),
       ("b", .obj [("payload", .obj [("type", .str "string")])])])])]

theorem run_messageReferences_chain :
    ∃ raw v, root (.json messageChain) = .ok raw ∧ Rules.version raw = .ok v ∧
      MessageReferences (World.bare.sources .default raw .inline)
        (run .bare .default .default .inline (.json messageChain)) := by
  have hok : (Rules.version messageChain).isOk = true := by decide +kernel
  cases hversion : Rules.version messageChain with
  | error e =>
    rw [hversion] at hok
    cases hok
  | ok v => exact ⟨messageChain, v, rfl, hversion, run_messageReferences rfl hversion⟩

/-- A message that is a reference to itself. -/
def messageCircle : Json :=
  .obj [("asyncapi", .str "3.0.0"),
    ("info", .obj [("title", .str "t"), ("version", .str "1")]),
    ("components", .obj [("messages", .obj
      [("m", .obj [("$ref", .str "#/components/messages/m")])])])]

/-- It comes out as a message without a payload, and nothing is told. -/
theorem message_circle_comes_out :
    ∃ d, (run .bare .default .default .inline (.json messageCircle)).document = some d ∧
      (run .bare .default .default .inline (.json messageCircle)).diagnostics = [] ∧
      d.json.ShowsReference (Rules.messagePath "m") ∧
      ∃ m ∈ d.messages, m.key = "m" ∧ m.payload = none := by
  have hreference : ((run .bare .default .default .inline (.json messageCircle)).document.bind
      fun d => ((Rules.messagePath "m").foldlM Json.get? d.json).bind Json.reference?) =
        some "#/components/messages/m" := by decide +kernel
  have hmessage : ((run .bare .default .default .inline (.json messageCircle)).document.any
      fun d => d.messages.any fun m => m.key == "m" && m.payload.isNone) = true := by
    decide +kernel
  obtain ⟨d, hd, href⟩ := Option.bind_eq_some_iff.1 hreference
  obtain ⟨v, hv, hr⟩ := Option.bind_eq_some_iff.1 href
  rw [hd] at hmessage
  obtain ⟨m, hm, hkey⟩ := List.any_eq_true.1 hmessage
  obtain ⟨hkey, hpayload⟩ := Bool.and_eq_true_iff.1 hkey
  refine ⟨d, hd, List.isEmpty_iff.1 (by decide +kernel), ⟨v, _, Json.shows_of_foldlM hv, hr⟩, m, hm,
    beq_iff_eq.1 hkey, Option.isNone_iff_eq_none.1 hpayload⟩

end Parse
end MessageContract
