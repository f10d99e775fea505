import MessageContract.Proofs.Schema.Rebase.Position

/-!
# Rebased schemas accept the same

A schema without references that keeps its data accepts the same values before and after it is
rebased (`Resources.preserves`), and its keywords are readable before if and only if they are after
(`CompiledSchema.reaches`). No reference is followed, so it does not matter which resources there
are.
-/

namespace MessageContract

/-! ## Scopes -/

namespace Scope

variable {scope : Scope} {p p' : Keyword.Part} {ms : Members}

theorem into_rebases (h : p.Rebases p') : scope.into p' = scope.into p := by
  simp only [into, Resources.Viewpoint.enter, h.schema.detect, h.schema.base, h.path]

theorem intoAnyway_rebases (h : p.Rebases p') : scope.intoAnyway p' = scope.intoAnyway p := by
  rw [intoAnyway, intoAnyway, into_rebases h, h.path]

theorem draft_of_into {inner : Scope} (h : scope.into p = .ok inner) :
    inner.dialect.draft = scope.dialect.draft.draftIn p.schema := by
  obtain ⟨view, -, hinner⟩ := bind_eq_ok h
  cases hinner
  rfl

theorem base_of_into {e : ReferenceError} (h : scope.into p = .error e) :
    Resource.base ⟨p.schema, scope.dialect.draft.draftIn p.schema⟩ scope.view.base = .error e := by
  simp only [into, Resources.Viewpoint.enter, Draft.draftIn] at h ⊢
  generalize Resource.base _ scope.view.base = x at h ⊢
  cases x with
  | error e' => exact congrArg Except.error (Except.error.inj h)
  | ok base => cases h

/-- Schemas in keywords are looked for with the draft that they are read by. -/
theorem looks_intoAnyway (h : Keyword.IsSought scope.dialect.draft ms p.schema) :
    Draft.Looks scope.dialect.draft (.obj ms) (scope.intoAnyway p).dialect.draft p.schema := by
  obtain ⟨m, hm, hschema⟩ := h
  cases hinto : scope.into p with
  | ok inner =>
    rw [intoAnyway, hinto]
    dsimp only
    rw [draft_of_into hinto]
    exact .inside .here hm hschema
  | error e =>
    rw [intoAnyway, hinto]
    show Draft.Looks scope.dialect.draft (.obj ms) scope.dialect.draft p.schema
    exact .astray .here hm hschema (base_of_into hinto)

end Scope

/-! ## Values -/

namespace Resources

variable {r r' : Resources} {fuel : Nat} {scope : Scope} {v w : Json} {ms : Members}

/-- What the keywords of a schema object see when they are checked. -/
def checking (r : Resources) (fuel : Nat) (scope : Scope) (ms : Members) : Inner where
  check p s := r.violations fuel (scope.intoAnyway p) p.schema s
  follow kind target s :=
    match r.resolve scope kind target with
    | .ok (inner, schema) =>
      if isIdle scope kind target schema then [] else r.violations fuel inner schema s
    | .error _ => []
  marked s := r.marks fuel true { scope with followed := [] } (.obj ms) s

theorem violations_obj (r : Resources) (fuel : Nat) (scope : Scope) (ms : Members) (spot : Spot) :
    r.violations (fuel + 1) scope (.obj ms) spot =
      (scope.dialect.keywords ms).flatMap
        (Keyword.violations (r.checking fuel scope ms) scope.path spot) := by
  rw [violations]
  rfl

/-- What the keywords of a schema object see when it matters what they look at. -/
def marking (r : Resources) (fuel : Nat) (scope : Scope) : Inner where
  check p s := r.violations fuel { scope.intoAnyway p with followed := [] } p.schema s
  follow _ _ _ := []
  marked _ := .none

/-- What the schemas in a schema object look at. -/
def tracing (r : Resources) (fuel : Nat) (scope : Scope) : Keyword.Traces where
  inside p s := r.marks fuel false (scope.intoAnyway p) p.schema s
  follow kind target s :=
    if scope.hasFollowed target then .none
    else
      match r.resolve scope kind target with
      | .ok (scope, schema) => r.marks fuel false scope schema s
      | .error _ => .none

theorem marks_obj (r : Resources) (fuel : Nat) (others : Bool) (scope : Scope) (ms : Members)
    (spot : Spot) :
    r.marks (fuel + 1) others scope (.obj ms) spot =
      .join (Keyword.openMarks ms spot ::
        Keyword.conditionMarks (r.marking fuel scope) (r.tracing fuel scope) ms spot ::
        ((scope.dialect.keywords ms).filter fun k => !(others && k.isUnevaluated)).map
          (Keyword.marks scope.dialect.draft (r.marking fuel scope) (r.tracing fuel scope)
            spot)) := by
  rw [marks]
  rfl

/-- The same values are accepted, and the same in them is looked at, in all scopes and with the
steps that are left. -/
def Preserves (r r' : Resources) (fuel : Nat) : Prop :=
  ∀ {scope : Scope} {v w : Json}, scope.dialect.draft.IsFree v → scope.dialect.draft.KeepsData v →
    Rebases v w →
    (∀ spot, r'.violations fuel scope w spot = [] ↔ r.violations fuel scope v spot = []) ∧
      ∀ others spot, r'.marks fuel others scope w spot = r.marks fuel others scope v spot

namespace Preserves

section

variable {p p' : Keyword.Part} (h : Preserves r r' fuel)
include h

theorem isEmpty_eq (hfree : scope.dialect.draft.IsFree v)
    (hkeeps : scope.dialect.draft.KeepsData v) (hschema : Rebases v w) (spot : Spot) :
    (r'.violations fuel scope w spot).isEmpty = (r.violations fuel scope v spot).isEmpty := by
  rw [Bool.eq_iff_iff, List.isEmpty_iff, List.isEmpty_iff]
  exact (h hfree hkeeps hschema).1 spot

/-! ### Schemas in an object -/

variable (hfree : scope.dialect.draft.IsFree (.obj ms))
  (hkeeps : scope.dialect.draft.KeepsData (.obj ms))
include hfree hkeeps

/-- They accept the same when they are checked. -/
theorem accepts_checking (hsought : Keyword.IsSought scope.dialect.draft ms p.schema)
    (hp : p.Rebases p') (ns ns' : Members) (spot : Spot) :
    Keyword.accepts (r'.checking fuel scope ns') spot p' =
      Keyword.accepts (r.checking fuel scope ns) spot p := by
  have hlooks := Scope.looks_intoAnyway hsought
  simp only [Keyword.accepts, checking, Scope.intoAnyway_rebases hp]
  exact h.isEmpty_eq (hfree.looks hlooks) (hkeeps.looks hlooks) hp.schema spot

/-- They accept the same when it matters what they look at. -/
theorem accepts_marking (hsought : Keyword.IsSought scope.dialect.draft ms p.schema)
    (hp : p.Rebases p') (spot : Spot) :
    Keyword.accepts (r'.marking fuel scope) spot p' =
      Keyword.accepts (r.marking fuel scope) spot p := by
  have hlooks := Scope.looks_intoAnyway hsought
  simp only [Keyword.accepts, marking, Scope.intoAnyway_rebases hp]
  have hnew : ({ scope.intoAnyway p with followed := [] } : Scope).dialect =
      (scope.intoAnyway p).dialect := rfl
  exact h.isEmpty_eq (hnew ▸ hfree.looks hlooks) (hnew ▸ hkeeps.looks hlooks) hp.schema spot

/-- They look at the same. -/
theorem inside_tracing (hsought : Keyword.IsSought scope.dialect.draft ms p.schema)
    (hp : p.Rebases p') (spot : Spot) :
    (r'.tracing fuel scope).inside p' spot = (r.tracing fuel scope).inside p spot := by
  have hlooks := Scope.looks_intoAnyway hsought
  simp only [tracing, Scope.intoAnyway_rebases hp]
  exact (h (hfree.looks hlooks) (hkeeps.looks hlooks) hp.schema).2 false spot

theorem conditionMarks_eq (spot : Spot) :
    Keyword.conditionMarks (r'.marking fuel scope) (r'.tracing fuel scope) (rebaseMembers ms) spot =
      Keyword.conditionMarks (r.marking fuel scope) (r.tracing fuel scope) ms spot := by
  refine Keyword.conditionMarks_rebase (fun v hv => ?_) fun keyword hk v hv => ?_
  · exact h.accepts_marking hfree hkeeps (Keyword.isSought_condition (by decide)
      (Members.mem_of_get? hv)) (Keyword.part_rebase _ v) spot
  · exact h.inside_tracing hfree hkeeps (Keyword.isSought_condition hk (Members.mem_of_get? hv))
      (Keyword.part_rebase _ v) spot

end

variable {k : Keyword}

theorem keywords_eq (hfree : scope.dialect.draft.IsFree (.obj ms)) :
    scope.dialect.keywords (rebaseMembers ms) = (scope.dialect.keywords ms).map Keyword.rebased :=
  Dialect.keywords_rebase (hfree _ ms .here "$ref" (Draft.mem_referenceKeywords _))

theorem stems (hfree : scope.dialect.draft.IsFree (.obj ms))
    (hkeeps : scope.dialect.draft.KeepsData (.obj ms)) (hk : k ∈ scope.dialect.keywords ms) :
    Keyword.Stems scope.dialect.draft ms k :=
  Dialect.stems_of_mem_keywords (hfree _ ms .here) (hkeeps _ ms .here) hk

/-- If the schemas in an object accept the same with the steps that are left, it does so with one
more. -/
theorem violations_iff (h : Preserves r r' fuel) (hfree : scope.dialect.draft.IsFree (.obj ms))
    (hkeeps : scope.dialect.draft.KeepsData (.obj ms)) (spot : Spot) :
    r'.violations (fuel + 1) scope (rebase (.obj ms)) spot = [] ↔
      r.violations (fuel + 1) scope (.obj ms) spot = [] := by
  rw [rebase, violations_obj, violations_obj, keywords_eq hfree, List.flatMap_map,
    List.flatMap_eq_nil_iff, List.flatMap_eq_nil_iff]
  refine forall₂_congr fun k hk => ?_
  have hstems := stems hfree hkeeps hk
  have hmarked : (r'.checking fuel scope (rebaseMembers ms)).marked =
      (r.checking fuel scope ms).marked := funext fun s =>
    (@h { scope with followed := [] } _ _ hfree hkeeps (.value (.obj ms))).2 true s
  exact Keyword.violations_rebased ⟨fun p hp p' hpp s =>
    h.accepts_checking hfree hkeeps (hstems.parts p hp) hpp _ _ s, hmarked⟩ hstems.settled

/-- If the schemas in an object look at the same with the steps that are left, it does so with one
more. -/
theorem marks_eq (h : Preserves r r' fuel) (hfree : scope.dialect.draft.IsFree (.obj ms))
    (hkeeps : scope.dialect.draft.KeepsData (.obj ms)) (others : Bool) (spot : Spot) :
    r'.marks (fuel + 1) others scope (rebase (.obj ms)) spot =
      r.marks (fuel + 1) others scope (.obj ms) spot := by
  have hothers : (fun k : Keyword => !(others && k.isUnevaluated)) ∘ Keyword.rebased =
      fun k => !(others && k.isUnevaluated) := by
    funext k
    rw [Function.comp_apply, Keyword.isUnevaluated_rebased]
  rw [rebase, marks_obj, marks_obj, Keyword.openMarks_rebase, h.conditionMarks_eq hfree hkeeps,
    keywords_eq hfree, List.filter_map, List.map_map, hothers]
  congr 3
  refine List.map_congr_left fun k hk => ?_
  have hstems := stems hfree hkeeps (List.mem_filter.1 hk).1
  exact Keyword.marks_rebased _
    ⟨fun p hp p' hpp s => h.accepts_marking hfree hkeeps (hstems.parts p hp) hpp s, rfl⟩
    (fun p hp p' hpp s => h.inside_tracing hfree hkeeps (hstems.parts p hp) hpp s) hstems.settled

end Preserves

/-- A schema without references that keeps its data accepts the same values after it is rebased, and
looks at the same in them. -/
theorem preserves (r r' : Resources) (fuel : Nat) : Preserves r r' fuel := by
  induction fuel with
  | zero => exact fun _ _ _ => ⟨fun _ => by simp only [violations], fun _ _ => by simp only [marks]⟩
  | succ fuel ih =>
    intro scope v w hfree hkeeps hschema
    cases hschema with
    | text hash =>
      exact ⟨fun _ => by simp only [violations], fun _ _ => by simp only [marks]⟩
    | value =>
      cases v with
      | obj ms => exact ⟨ih.violations_iff hfree hkeeps, ih.marks_eq hfree hkeeps⟩
      | bool b =>
        exact ⟨fun _ => by cases b <;> simp [rebase, violations], fun _ _ => by
          simp only [rebase, marks]⟩
      | _ =>
        exact ⟨fun _ => by simp only [rebase, violations], fun _ _ => by simp only [rebase, marks]⟩

end Resources

/-! ## Readable keywords -/

namespace CompiledSchema

variable {r r' : Resources} {scope : Scope} {v w : Json} {ms : Members} {seen : List String}

/-- Goes to a schema in a keyword, or fails with the fault there. -/
def reachContent (r : Resources) (fuel : Nat) (scope : Scope) (seen : List String)
    (c : Keyword.Content) : Except CompileError (List String) :=
  match c with
  | .error e => .error (.value e.cause e.value)
  | .ok p =>
    match scope.into p with
    | .error e => .error (.reference e)
    | .ok inner => reach r fuel inner seen p.schema

/-- Goes to what a keyword refers to, or through the schemas in it. -/
def reachKeyword (r : Resources) (fuel : Nat) (scope : Scope) (ms : Members) (seen : List String)
    (m : String × Json) : Except CompileError (List String) :=
  match Keyword.read scope.dialect ms m.1 m.2 with
  | .ok (some (.reference kind target)) =>
    let sight := sight scope kind target
    if seen.contains sight then .ok seen
    else
      match r.resolve scope kind target with
      | .error e => .error (.reference e)
      | .ok (scope, schema) => reach r fuel scope (sight :: seen) schema
  | _ => (Keyword.contents scope.dialect ms m.1 m.2).foldlM (reachContent r fuel scope) seen

theorem reach_obj (r : Resources) (fuel : Nat) (scope : Scope) (seen : List String) (ms : Members) :
    reach r (fuel + 1) scope seen (.obj ms) =
      (scope.dialect.entries ms).foldlM (reachKeyword r fuel scope ms) seen := by
  rw [reach]
  rfl

theorem reachKeyword_eq {fuel : Nat} {m : String × Json}
    (h : ∀ kind target,
      Keyword.read scope.dialect ms m.1 m.2 ≠ .ok (some (.reference kind target))) :
    reachKeyword r fuel scope ms seen m =
      (Keyword.contents scope.dialect ms m.1 m.2).foldlM (reachContent r fuel scope) seen := by
  unfold reachKeyword
  split
  · next hread => exact absurd hread (h _ _)
  · rfl

/-- Schemas are reached before and after in the same way, in all scopes and with the steps that are
left. -/
def Reaches (r r' : Resources) (fuel : Nat) : Prop :=
  ∀ {scope : Scope} {v w : Json}, scope.dialect.draft.IsFree v → scope.dialect.draft.KeepsData v →
    Rebases v w → ∀ seen, Agree Eq (reach r fuel scope seen v) (reach r' fuel scope seen w)

namespace Reaches

variable {fuel : Nat}

theorem content (h : Reaches r r' fuel) (hfree : scope.dialect.draft.IsFree (.obj ms))
    (hkeeps : scope.dialect.draft.KeepsData (.obj ms)) {c c' : Keyword.Content}
    (hc : Agree Keyword.Part.Rebases c c')
    (hsought : ∀ p, c = .ok p → Keyword.IsSought scope.dialect.draft ms p.schema)
    (seen : List String) :
    Agree Eq (reachContent r fuel scope seen c) (reachContent r' fuel scope seen c') := by
  cases hc with
  | error e e' => exact .error _ _
  | @ok p p' hp =>
    obtain ⟨m, hm, hschema⟩ := hsought p rfl
    simp only [reachContent, Scope.into_rebases hp]
    cases hinto : scope.into p with
    | error e => exact .error _ _
    | ok inner =>
      have hlooks : Draft.Looks scope.dialect.draft (.obj ms) inner.dialect.draft p.schema := by
        rw [Scope.draft_of_into hinto]
        exact .inside .here hm hschema
      exact h (hfree.looks hlooks) (hkeeps.looks hlooks) hp.schema seen

theorem keyword (h : Reaches r r' fuel) (hfree : scope.dialect.draft.IsFree (.obj ms))
    (hkeeps : scope.dialect.draft.KeepsData (.obj ms)) {m : String × Json} (hm : m ∈ ms)
    (seen : List String) :
    Agree Eq (reachKeyword r fuel scope ms seen m)
      (reachKeyword r' fuel scope (rebaseMembers ms) seen (m.1, rebase m.2)) := by
  have hnames := fun k hk => hfree _ ms .here k hk
  have href : m.1 ∉ scope.dialect.draft.referenceKeywords :=
    fun hk => hnames m.1 hk (List.mem_map_of_mem hm)
  have hk : m.1 ≠ "$ref" := fun heq => href (heq ▸ Draft.mem_referenceKeywords _)
  have hdata := hkeeps _ ms .here m hm
  have hread := Keyword.agree_read scope.dialect ms hk m.2
  have hstems : Keyword.Yields (Keyword.Stems scope.dialect.draft ms)
      (Keyword.read scope.dialect ms m.1 m.2) := Keyword.stems_read hm href hdata
  have hbefore : ∀ kind target,
      Keyword.read scope.dialect ms m.1 m.2 ≠ .ok (some (.reference kind target)) :=
    fun kind target heq => (hstems _ heq).settled
  have hafter : ∀ kind target, Keyword.read scope.dialect (rebaseMembers ms) m.1 (rebase m.2) ≠
      .ok (some (.reference kind target)) :=
    fun kind target heq => Keyword.ne_reference_of_reads hread hbefore heq
  rw [reachKeyword_eq hbefore, reachKeyword_eq hafter]
  have hsought : ∀ c ∈ Keyword.contents scope.dialect ms m.1 m.2, ∀ p, c = .ok p →
      Keyword.IsSought scope.dialect.draft ms p.schema := by
    rintro _ hc p rfl
    exact Keyword.isSought_contents hm href hdata hc
  have hcontents := (List.forall₂_and_left _ _).2
    ⟨hsought, Keyword.agree_contents scope.dialect ms hk m.2⟩
  refine Agree.foldlM hcontents ?_ rfl
  rintro seen _ c c' rfl ⟨hsought, hc⟩
  exact h.content hfree hkeeps hc hsought seen

end Reaches

/-- The keywords of a schema that is free of references and keeps its data are readable before it is
rebased if and only if they are after. -/
theorem reaches (r r' : Resources) (fuel : Nat) : Reaches r r' fuel := by
  induction fuel with
  | zero => exact fun _ _ _ _ => .ok rfl
  | succ fuel ih =>
    intro scope v w hfree hkeeps hschema seen
    cases hschema with
    | text hash => exact .error _ _
    | value =>
      cases v with
      | obj ms =>
        have href := hfree _ ms .here "$ref" (Draft.mem_referenceKeywords _)
        rw [rebase, reach_obj, reach_obj, Dialect.entries_eq href, Dialect.entries_rebase href]
        refine Agree.foldlM (forall₂_rebaseMembers_of_ne href) ?_ rfl
        rintro seen _ m _ rfl ⟨hm, rfl⟩
        exact ih.keyword hfree hkeeps hm seen
      | bool b => exact .ok rfl
      | _ => exact .error _ _

end CompiledSchema
end MessageContract
