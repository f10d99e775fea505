import MessageContract.Proofs.Schema.Compilation
import MessageContract.Proofs.Schema.Rebase.Metaschema
import MessageContract.Schema.Report

/-!
# Schemas that are accepted

Whether the schema of schemas accepts a schema can be computed from its pieces, without the
resources that its references lead to (`Metaschema.Piece.accepts`). What is accepted in this way has
no violation (`Metaschema.Piece.violations_of_accepts`), so a schema without names and references
compiles if it is accepted and its keywords can be read (`compileSchema_of_accepts`).
-/

namespace MessageContract
namespace Metaschema

open Resources (standard)

/-- Whether a value satisfies a clause, where `piece` tells which values satisfy a piece and
`target` is the piece that a reference leads to. If names are asked about, only objects without
members are taken to satisfy it. -/
def Clause.accepts (piece : Piece → Json → Bool) (target : Option Piece) (v : Json) :
    Clause → Bool
  | plain k =>
    (Keyword.violations ⟨fun _ _ => [], fun _ _ _ => [], fun _ => .none⟩ [] ⟨v, []⟩ k).isEmpty
  | reference _ => target.any (piece · v)
  | items q => (Draft.listed v).all (piece q)
  | distinctItems => Keyword.isListSuch Json.allDistinct v
  | properties =>
    Piece.properties.all fun e => (Members.get? (Keyword.membersOf ⟨v, []⟩) e.1).all (piece e.2)
  | members q => (Keyword.membersOf ⟨v, []⟩).all fun m => piece q m.2
  | names _ => (Keyword.membersOf ⟨v, []⟩).isEmpty
  | allOf qs => qs.all (piece · v)
  | anyOf qs => qs.any (piece · v)

namespace Piece

/-- Whether it can be seen in some steps that a value satisfies a piece. -/
def accepts : Nat → Piece → Json → Bool
  | 0, _, _ => false
  | n + 1, p, v => p.clauses.all (Clause.accepts (accepts n) (p.target?.map (·.2)) v)

/-! ## Values that are accepted -/

/-- No keyword without schemas depends on those around it. -/
theorem violations_plain_eq_nil {inner inner' : Inner} {path path' steps steps' : List String}
    {k : Keyword} {v : Json} (hk : k.isPlain = true)
    (h : Keyword.violations inner steps ⟨v, path⟩ k = []) :
    Keyword.violations inner' steps' ⟨v, path'⟩ k = [] := by
  cases k with
  | type | enum | bound | size | format =>
    simpa only [Keyword.violations, Keyword.demand_eq_nil_iff] using h
  | _ => cases hk

/-- Everything that a piece accepts in some steps has no violation in as many. -/
def IsSound (piece : Piece → Json → Bool) (fuel : Nat) : Prop :=
  ∀ {p v}, piece p v = true → ∀ {scope : Scope}, scope.IsMeta → ∀ path,
    standard.violations fuel scope p.schema ⟨v, path⟩ = []

variable {piece : Piece → Json → Bool} {fuel : Nat} {scope : Scope} {p q : Piece} {c : Clause}
  {v : Json} {ms : Members}

theorem IsSound.check (h : IsSound piece fuel) (hq : q ≠ top) (hv : piece q v = true)
    (hscope : scope.IsMeta) (steps path : List String) :
    (standard.checking fuel scope ms).check ⟨steps, q.schema⟩ ⟨v, path⟩ = [] :=
  h hv (isMeta_intoAnyway hscope hq steps) path

theorem value_mem_listed {t : Spot} {path : List String} (h : t ∈ Keyword.itemSpots ⟨v, path⟩) :
    t.value ∈ Draft.listed v := by
  cases v with
  | arr xs =>
    obtain ⟨x, hx, rfl⟩ := List.mem_map.1 h
    exact List.fst_mem_of_mem_zipIdx hx
  | _ => cases h

/-- A clause that is no reference. -/
theorem IsSound.clause (h : IsSound piece fuel) (hallows : p.allows c = true)
    (hv : c.accepts piece none v = true) (hscope : scope.IsMeta) (steps path : List String) :
    Keyword.violations (standard.checking fuel scope ms) steps ⟨v, path⟩ c.keyword = [] := by
  have htop : ∀ {qs : List Piece}, (qs.all fun q => q != top && q.need < p.need) = true →
      ∀ q ∈ qs, q ≠ top := by
    intro qs hqs q hq
    simpa using (Bool.and_eq_true_iff.1 (List.all_eq_true.1 hqs q hq)).1
  cases c with
  | plain k => exact violations_plain_eq_nil hallows (List.isEmpty_iff.1 hv)
  | reference target => cases hv
  | items q =>
    have hq : q ≠ top := by simpa [allows] using hallows
    simp only [Clause.keyword, Keyword.violations, List.drop_zero, List.flatMap_eq_nil_iff]
    intro t ht
    exact h.check hq (List.all_eq_true.1 hv _ (value_mem_listed ht)) hscope _ _
  | distinctItems => exact Keyword.demand_eq_nil_iff.2 hv
  | properties =>
    have hproperties : ∀ e ∈ properties, e.2 ≠ top := by decide
    simp only [Clause.keyword, Keyword.violations, List.flatMap_map, List.flatMap_eq_nil_iff]
    intro e he
    have hmember := List.all_eq_true.1 hv e he
    split
    · next w hw =>
      have hw' : Members.get? (Keyword.membersOf ⟨v, []⟩) e.1 = some w := hw
      rw [hw'] at hmember
      exact h.check (hproperties e he) hmember hscope _ _
    · rfl
  | members q =>
    have hq : q = whole ∨ q = dependency := by simpa [allows] using hallows
    have htop : q ≠ top := by rcases hq with rfl | rfl <;> decide
    rw [Clause.keyword, violations_members_eq, List.flatMap_eq_nil_iff]
    intro m hm
    exact h.check htop (List.all_eq_true.1 hv m hm) hscope _ _
  | names s =>
    have hempty : Keyword.membersOf ⟨v, path⟩ = [] := List.isEmpty_iff.1 hv
    simp only [Clause.keyword, Keyword.violations, Keyword.nameViolations, hempty]
    split <;> rfl
  | allOf qs =>
    simp only [Clause.keyword, Keyword.violations, List.flatMap_eq_nil_iff]
    intro part hpart
    obtain ⟨q, hq, heq⟩ := exists_of_mem_numbered hpart
    rw [heq]
    exact h.check (htop hallows q hq) (List.all_eq_true.1 hv q hq) hscope _ _
  | anyOf qs =>
    obtain ⟨q, hq, haccepted⟩ := List.any_eq_true.1 hv
    obtain ⟨i, hi⟩ := List.mem_iff_getElem?.1 (List.mem_map_of_mem (f := schema) hq)
    have hpart : (⟨["anyOf", toString i], q.schema⟩ : Keyword.Part) ∈
        Keyword.numbered "anyOf" (qs.map schema) :=
      List.mem_map.2 ⟨(q.schema, i), List.mk_mem_zipIdx_iff_getElem?.2 hi, rfl⟩
    refine Keyword.demand_eq_nil_iff.2 (List.any_eq_true.2 ⟨_, hpart, Keyword.accepts_iff.2 ?_⟩)
    exact h.check (htop hallows q hq) haccepted hscope _ _

/-- What is accepted in some steps has no violation in as many or more. -/
theorem violations_of_accepts {n : Nat} : ∀ {fuel : Nat}, n ≤ fuel → IsSound (accepts n) fuel := by
  induction n with
  | zero =>
    intro fuel _ p v h
    cases h
  | succ n ih =>
    intro fuel hfuel p v h scope hscope path
    obtain ⟨fuel, rfl⟩ : ∃ m, fuel = m + 1 := ⟨fuel - 1, by omega⟩
    have hsound : IsSound (accepts n) fuel := ih (Nat.le_of_succ_le_succ hfuel)
    rw [accepts] at h
    cases htarget : p.target? with
    | some x =>
      obtain ⟨target, q⟩ := x
      obtain ⟨inner, hinner, heq⟩ := violations_reference fuel hscope htarget
      rw [(clauses_of_target htarget).2, htarget] at h
      rw [heq]
      exact hsound (by simpa [Clause.accepts] using h) hinner path
    | none =>
      rw [htarget] at h
      cases hp : p.schema with
      | obj ms =>
        rw [← hp, violations_obj hscope hp, List.flatMap_eq_nil_iff]
        intro c hc
        exact hsound.clause (allows_of_mem hc) (List.all_eq_true.1 h c hc) hscope _ _
      | bool b =>
        have htrue : b = true := by
          cases p <;> first | (cases hp; done) | exact (Json.bool.inj hp).symm
        simp only [htrue, Resources.violations]
      | _ => simp only [Resources.violations]

end Piece
end Metaschema

/-- A schema that is seen to be accepted is. -/
theorem CompiledSchema.metaViolation?_of_accepts {v : Json}
    (h : Metaschema.Piece.top.accepts (4 * v.depth + 4) v = true) :
    metaViolation? v = none := by
  by_cases hv : ∃ b, v = .bool b
  · obtain ⟨b, rfl⟩ := hv
    rfl
  · rw [metaViolation?_eq_none_iff fun b heq => hv ⟨b, heq⟩]
    exact Metaschema.Piece.violations_of_accepts (Resources.le_budget_standard v) h
      Metaschema.Piece.isMeta_metaScope []

/-- A schema without names and references compiles if it is seen to be accepted and its keywords can
be read, and its records are those of the violations that it has wherever it stands. -/
theorem compileSchema_of_accepts (schema x : Json) (vs : List Violation)
    (hrebase : rebase schema = schema) (hplain : Plain schema)
    (haccepts : Metaschema.Piece.top.accepts (4 * schema.depth + 4) schema = true)
    (hreach : ∀ r fuel view, CompiledSchema.reach r (fuel + 4)
      ⟨view, Resource.dialect ⟨schema, .draft7⟩, [], []⟩ [] schema = .ok [])
    (hviolations : ∀ (r : Resources) fuel view, r.violations (fuel + 2)
      ⟨view, Resource.dialect ⟨schema, .draft7⟩, [], []⟩ schema ⟨x, []⟩ = vs) (document : Json) :
    ∃ c, compileSchema schema document = .ok c ∧
      c.records schema x = vs.map (Violation.record schema) := by
  obtain ⟨c, hc, hschema, view, hscope⟩ := compileSchema_plain hrebase hplain
    (CompiledSchema.metaViolation?_of_accepts haccepts) hreach document
  refine ⟨c, hc, ?_⟩
  have hbudget : c.resources.budget x = x.depth * (c.resources.count + 2) + c.resources.count + 2 :=
    Nat.succ_mul _ _
  rw [CompiledSchema.records, CompiledSchema.violations, hschema, hscope, hbudget, hviolations]

end MessageContract
