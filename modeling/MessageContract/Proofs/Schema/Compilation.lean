import MessageContract.Proofs.Except
import MessageContract.Schema.Compile

/-!
# Schemas that always compile

A schema in which nothing is named and nothing refers to anything brings nothing to gather, so it
does not matter what document it is taken from (`Resources.gather_plain`). The two truth values
compile, and so does an object in which no keyword says anything, such as the one without keywords;
it takes every payload (`compileSchema_silent`).
-/

namespace MessageContract

/-- A schema without a name and without references, as are all schemas inside. -/
inductive Plain : Json → Prop
  | intro {schema : Json} (name : Draft.draft7.name? schema = none)
      (references : Resources.ownReferences schema = [])
      (inside : ∀ x ∈ Draft.draft7.inside schema, Plain x) : Plain schema

theorem Plain.name?_eq {schema : Json} : Plain schema → Draft.draft7.name? schema = none
  | .intro name _ _ => name

theorem Plain.references_eq {schema : Json} : Plain schema → Resources.ownReferences schema = []
  | .intro _ references _ => references

theorem Plain.inside {schema : Json} : Plain schema → ∀ x ∈ Draft.draft7.inside schema, Plain x
  | .intro _ _ inside => inside

theorem Plain.leaf {schema : Json} (name : Draft.draft7.name? schema = none)
    (references : Resources.ownReferences schema = []) (inside : Draft.draft7.inside schema = []) :
    Plain schema :=
  .intro name references (by simp [inside])

theorem Plain.empty : Plain (.obj []) := .leaf rfl rfl rfl

theorem Plain.bool (b : Bool) : Plain (.bool b) := .leaf rfl rfl rfl

namespace Resources

variable {schema : Json} {g : Gathering}

/-- Only schemas without names and references are left to look at. -/
structure Gathering.IsPlain (g : Gathering) : Prop where
  queue : ∀ q ∈ g.queue, q.2.draft = .draft7 ∧ Plain q.2.schema
  wanted : g.wanted = []

theorem base_plain (h : Plain schema) (around : Uri) :
    Resource.base ⟨schema, .draft7⟩ around = .ok around := by
  simp only [Resource.base, h.name?_eq]

theorem nameOf_plain (h : Plain schema) : nameOf schema = .ok .unnamed := by
  simp only [nameOf, h.name?_eq]

theorem collectAll_plain (h : Plain schema) (base : Uri) (g : Gathering) :
    collectAll base g schema = .ok g := by
  rw [collectAll, collect, h.references_eq]
  split <;> rfl

theorem detected_plain (h : Plain schema) : detected .draft7 schema = .ok .draft7 := by
  have hnone : (schema.get? "$schema").bind Json.asString? = none :=
    List.filterMap_eq_nil_iff.1 h.references_eq "$schema" (by simp)
  rw [detected, Draft.detect, hnone]
  rfl

theorem visitInside_plain (h : Plain schema) (hg : g.IsPlain) (base : Uri) :
    ∃ g', visitInside base .draft7 g schema = .ok g' ∧ g'.IsPlain := by
  simp only [visitInside, detected_plain h, base_plain h, collectAll_plain h, bind, Except.bind,
    pure, Except.pure]
  refine ⟨_, rfl, ?_, hg.wanted⟩
  exact List.forall_mem_append.2 ⟨hg.queue, List.forall_mem_singleton.2 ⟨rfl, h⟩⟩

theorem foldlM_visitInside_plain {schemas : List Json} (h : ∀ x ∈ schemas, Plain x)
    (hg : g.IsPlain) (base : Uri) :
    ∃ g', schemas.foldlM (visitInside base .draft7) g = .ok g' ∧ g'.IsPlain := by
  induction schemas generalizing g with
  | nil => exact ⟨g, rfl, hg⟩
  | cons x schemas ih =>
    obtain ⟨hx, hrest⟩ := List.forall_mem_cons.1 h
    obtain ⟨g', hvisit, hg'⟩ := visitInside_plain hx hg base
    rw [List.foldlM_cons, hvisit]
    exact ih hrest hg'

theorem visit_plain (h : Plain schema) (hg : g.IsPlain) (around : Uri) :
    ∃ g', visit g around ⟨schema, .draft7⟩ = .ok g' ∧ g'.IsPlain := by
  have hanchors : Gathering.IsPlain
      { g with known := withAnchors around ⟨schema, .draft7⟩ g.known } := ⟨hg.queue, hg.wanted⟩
  obtain ⟨g', hinside, hg'⟩ := foldlM_visitInside_plain h.inside hanchors around
  simp only [visit, base_plain h, collectAll_plain h, hinside, h.name?_eq, bind, Except.bind,
    pure, Except.pure, Option.isSome_none, Bool.false_eq_true, if_false]
  exact ⟨g', rfl, hg'⟩

theorem gatherFrom_plain (hg : g.IsPlain) (document : Json) (fuel : Nat) :
    ∃ r, gatherFrom document fuel g = .ok r := by
  induction fuel generalizing g with
  | zero => exact ⟨_, rfl⟩
  | succ fuel ih =>
    obtain ⟨known, queue, wanted, seen⟩ := g
    obtain ⟨hqueue, hwanted⟩ := hg
    dsimp only at hqueue hwanted
    subst hwanted
    cases queue with
    | nil => exact ⟨known, rfl⟩
    | cons q queue =>
      obtain ⟨⟨hdraft, hschema⟩, hrest⟩ := List.forall_mem_cons.1 hqueue
      obtain ⟨base, ⟨schema, draft⟩⟩ := q
      dsimp only at hdraft hschema
      subst hdraft
      obtain ⟨g', hvisit, hg'⟩ := visit_plain (g := ⟨known, queue, [], seen⟩) hschema
        ⟨hrest, rfl⟩ base
      rw [gatherFrom]
      dsimp only
      rw [hvisit]
      exact ih hg'

theorem gather_plain (h : Plain schema) (document : Json) :
    ∃ r, gather schema document = .ok r := by
  simp only [gather, nameOf_plain h, bind, Except.bind]
  exact gatherFrom_plain ⟨List.forall_mem_singleton.2 ⟨rfl, h⟩, rfl⟩ _ _

end Resources

namespace CompiledSchema

/-- What holds of an object that has none of the members asked about, whatever the schemas inside
say. -/
def isMild (ms : Members) : Keyword → Bool
  | .type names _ => names.contains .object
  | .properties named => named.all fun p => (ms.get? p.1).isNone
  | _ => false

theorem violations_mild {ms : Members} (inner : Inner) (path : List String) {k : Keyword}
    (h : isMild ms k = true) : Keyword.violations inner path ⟨.obj ms, []⟩ k = [] := by
  cases k with
  | type names strict =>
    have hany : names.any (Keyword.hasType strict · (.obj ms)) = true :=
      List.any_eq_true.2 ⟨.object, List.contains_iff_mem.1 h, rfl⟩
    exact if_pos hany
  | properties named =>
    refine List.flatMap_eq_nil_iff.2 fun p hp => ?_
    have hnone := Option.isNone_iff_eq_none.1 (List.all_eq_true.1 h p hp)
    simp only [Keyword.membersOf, hnone]
  | _ => cases h

/-- The schema of schemas has nothing to say about an object without the keywords that it asks
about. -/
def Passes (ms : Members) : Prop :=
  ∃ keywords, Metaschema.Draft7.schema = .obj keywords ∧
    (metaScope.dialect.keywords keywords).all (isMild ms) = true

theorem Passes.violations {ms : Members} (h : Passes ms) (r : Resources) :
    r.violations (r.budget (.obj ms)) metaScope metaResource.schema ⟨.obj ms, []⟩ = [] := by
  obtain ⟨keywords, hkeywords, hmild⟩ := h
  have hschema : metaResource.schema = .obj keywords := hkeywords
  rw [hschema, Resources.budget, Nat.mul_succ, Nat.add_succ, Resources.violations]
  exact List.flatMap_eq_nil_iff.2 fun k hk => violations_mild _ _ (List.all_eq_true.1 hmild k hk)

theorem Passes.metaViolation? {ms : Members} (h : Passes ms) :
    metaViolation? (.obj ms) = none := by
  unfold CompiledSchema.metaViolation?
  simp only [h.violations, List.head?_nil]

/-- No keyword of a schema object says anything, or holds a schema. -/
def IsSilent (d : Dialect) (ms : Members) : Prop :=
  ∀ m ∈ d.entries ms, Keyword.read d ms m.1 m.2 = .ok none ∧ Keyword.contents d ms m.1 m.2 = []

theorem reach_of_silent {ms : Members} {scope : Scope} (h : IsSilent scope.dialect ms)
    (r : Resources) (fuel : Nat) (seen : List String) :
    reach r (fuel + 1) scope seen (.obj ms) = .ok seen := by
  rw [reach]
  rw [IsSilent] at h
  generalize scope.dialect.entries ms = entries at h
  induction entries with
  | nil => rfl
  | cons m entries ih =>
    obtain ⟨hread, hcontents⟩ := h m List.mem_cons_self
    simp only [List.foldlM_cons, hread, hcontents, List.foldlM_nil, pure_bind]
    exact ih fun m hm => h m (List.mem_cons_of_mem _ hm)

theorem violations_of_silent {ms : Members} {scope : Scope} (h : IsSilent scope.dialect ms)
    (r : Resources) (fuel : Nat) (spot : Spot) :
    r.violations (fuel + 1) scope (.obj ms) spot = [] := by
  have hkeywords : scope.dialect.keywords ms = [] := by
    refine List.filterMap_eq_nil_iff.2 fun m hm => ?_
    rw [(h m hm).1]
  rw [Resources.violations, hkeywords]
  rfl

end CompiledSchema

/-- A payload schema used as it is written, with its references by fragment alone left as they
are. -/
def compileAsWritten (schema document : Json) : Except CompileError CompiledSchema := do
  let resources ← (Resources.gather schema document).mapError .reference
  let base ← (Resources.nameOf schema).mapError .reference
  match CompiledSchema.metaViolation? schema with
  | some v => .error (.value v.cause v.spot.value)
  | none =>
    let resource : Resource := ⟨schema, .draft7⟩
    let view ← (Resources.Viewpoint.enter ⟨base, []⟩ resource).mapError .reference
    let scope : Scope := ⟨view, resource.dialect, [], []⟩
    let size := resources.count + 2
    let _ ← CompiledSchema.reach resources (size * size) scope [] schema
    return ⟨schema, scope, resources⟩

/-- Compiling takes a payload schema with its references by fragment alone led into the document,
and starts there. -/
theorem of_compileSchema {payload document : Json} {c : CompiledSchema}
    (h : compileSchema payload document = .ok c) :
    c.schema = rebase payload ∧ c.scope.path = [] := by
  rw [compileSchema] at h
  obtain ⟨resources, -, h⟩ := bind_eq_ok h
  obtain ⟨base, -, h⟩ := bind_eq_ok h
  split at h
  · cases h
  · obtain ⟨view, -, h⟩ := bind_eq_ok h
    obtain ⟨seen, -, h⟩ := bind_eq_ok h
    cases h
    exact ⟨rfl, rfl⟩

theorem compileSchema_schema {payload document : Json} {c : CompiledSchema}
    (h : compileSchema payload document = .ok c) : c.schema = rebase payload :=
  (of_compileSchema h).1

theorem compileSchema_eq (schema document : Json) :
    compileSchema schema document = compileAsWritten (rebase schema) document := rfl

/-- A schema that brings nothing along starts in its own dialect. -/
theorem compileAsWritten_plain {schema : Json} (h : Plain schema)
    (hmeta : CompiledSchema.metaViolation? schema = none)
    (hreach : ∀ r fuel view, CompiledSchema.reach r (fuel + 4)
      ⟨view, Resource.dialect ⟨schema, .draft7⟩, [], []⟩ [] schema = .ok [])
    (document : Json) : ∃ c, compileAsWritten schema document = .ok c ∧ c.schema = schema ∧
      ∃ view, c.scope = ⟨view, Resource.dialect ⟨schema, .draft7⟩, [], []⟩ := by
  obtain ⟨r, hr⟩ := Resources.gather_plain h document
  have hsize : (r.count + 2) * (r.count + 2) = r.count * (r.count + 4) + 4 := by grind
  have hok : ∀ {α : Type} (a : α),
      (Except.ok a : Except ReferenceError α).mapError CompileError.reference = .ok a :=
    fun _ => rfl
  simp only [compileAsWritten, hr, Resources.nameOf_plain h, hmeta, Resources.Viewpoint.enter,
    Resources.base_plain h, bind, Except.bind, hok, pure, Except.pure, hsize, hreach]
  exact ⟨_, rfl, rfl, _, rfl⟩

theorem compileSchema_plain {schema : Json} (hrebase : rebase schema = schema) (h : Plain schema)
    (hmeta : CompiledSchema.metaViolation? schema = none)
    (hreach : ∀ r fuel view, CompiledSchema.reach r (fuel + 4)
      ⟨view, Resource.dialect ⟨schema, .draft7⟩, [], []⟩ [] schema = .ok [])
    (document : Json) : ∃ c, compileSchema schema document = .ok c ∧ c.schema = schema ∧
      ∃ view, c.scope = ⟨view, Resource.dialect ⟨schema, .draft7⟩, [], []⟩ := by
  rw [compileSchema_eq, hrebase]
  exact compileAsWritten_plain h hmeta hreach document

/-- An object in which no keyword says anything compiles to a schema that takes every payload. -/
theorem compileSchema_silent {ms : Members} (hrebase : rebase (.obj ms) = .obj ms)
    (h : Plain (.obj ms)) (hpasses : CompiledSchema.Passes ms)
    (hsilent : CompiledSchema.IsSilent (Resource.dialect ⟨.obj ms, .draft7⟩) ms)
    (document : Json) :
    ∃ c, compileSchema (.obj ms) document = .ok c ∧ ∀ payload, c.violations payload = [] := by
  obtain ⟨c, hc, hschema, view, hscope⟩ := compileSchema_plain hrebase h hpasses.metaViolation?
    (fun r fuel view => CompiledSchema.reach_of_silent hsilent r (fuel + 3) []) document
  refine ⟨c, hc, fun payload => ?_⟩
  rw [CompiledSchema.violations, hschema, Resources.budget, Nat.mul_succ, Nat.add_succ]
  exact CompiledSchema.violations_of_silent (hscope ▸ hsilent) _ _ _

theorem compileSchema_bool (b : Bool) (document : Json) :
    ∃ c, compileSchema (.bool b) document = .ok c ∧ c.schema = .bool b := by
  obtain ⟨c, hc, hschema, _⟩ := compileSchema_plain rfl (.bool b) rfl (fun _ _ _ => rfl) document
  exact ⟨c, hc, hschema⟩

end MessageContract
