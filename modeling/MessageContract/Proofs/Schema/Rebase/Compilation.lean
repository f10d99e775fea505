import MessageContract.Proofs.Schema.Compilation
import MessageContract.Proofs.Schema.Rebase.Metaschema

/-!
# Payload schemas without references

A payload schema is rebased before it is used. Where none of its schemas is a reference, and no data
that values are compared with are changed by it, that makes no difference: the schema compiles if
and only if it does as it is written, and then it accepts the same payloads
(`Draft.IsFree.agree_compile`). Data under `default` and `examples` do not matter, and those under
`const` and `enum` do: a reference by fragment alone in them is changed as well
(`Draft.IsFree.not_agree_compile`).
-/

namespace MessageContract

open CompiledSchema (metaViolation? reach)

/-- What the schema of schemas refuses does not compile. -/
theorem compileAsWritten_error {schema : Json} (h : metaViolation? schema ≠ none)
    (document : Json) : ∃ e, compileAsWritten schema document = .error e := by
  obtain ⟨x, hx⟩ := Option.ne_none_iff_exists'.1 h
  rw [compileAsWritten, hx]
  cases Resources.gather schema document with
  | error e => exact ⟨_, rfl⟩
  | ok r =>
    cases Resources.nameOf schema with
    | error e => exact ⟨_, rfl⟩
    | ok base => exact ⟨_, rfl⟩

/-- The same payloads are accepted. -/
def CompiledSchema.SameVerdicts (c c' : CompiledSchema) : Prop :=
  ∀ payload, c'.violations payload = [] ↔ c.violations payload = []

/-- A schema without references that keeps its data compiles after it is rebased if and only if it
does so before, and then it accepts the same payloads. -/
theorem Draft.IsFree.agree_compile {payload : Json} (hfree : Draft.draft7.IsFree payload)
    (hkeeps : Draft.draft7.KeepsData payload) (document : Json) :
    Agree CompiledSchema.SameVerdicts (compileAsWritten payload document)
      (compileSchema payload document) := by
  rw [compileSchema_eq]
  by_cases hmeta : metaViolation? payload = none
  · have hmeta' : metaViolation? (rebase payload) = none :=
      (CompiledSchema.metaViolation?_rebase payload).2 hmeta
    have hquiet := CompiledSchema.isQuiet_of_metaViolation? hmeta
    have hschema := Rebases.value payload
    rw [compileAsWritten, compileAsWritten, hmeta, hmeta', hschema.nameOf]
    have hgather := Resources.agree_gather hfree hquiet hschema document
    refine hgather.mapError.bind fun r r' hcount => ?_
    refine (Agree.refl (R := Eq) (fun _ => rfl) _).bind ?_
    rintro base _ rfl
    dsimp only
    rw [Resources.Viewpoint.enter, Resources.Viewpoint.enter, hschema.base, hschema.dialect, hcount]
    refine (Agree.refl (R := Eq) (fun _ => rfl) _).bind ?_
    rintro view _ rfl
    have hreach := @CompiledSchema.reaches r r' ((r.count + 2) * (r.count + 2))
      ⟨view, Resource.dialect ⟨payload, .draft7⟩, [], []⟩ _ _ hfree hkeeps hschema []
    refine hreach.bind fun _ _ _ => .ok fun v => ?_
    rw [CompiledSchema.violations, CompiledSchema.violations, Resources.budget, Resources.budget,
      hcount]
    exact (Resources.preserves r r' _ hfree hkeeps hschema).1 ⟨v, []⟩
  · have hmeta' : metaViolation? (rebase payload) ≠ none := fun h =>
      hmeta ((CompiledSchema.metaViolation?_rebase payload).1 h)
    obtain ⟨e, he⟩ := compileAsWritten_error hmeta document
    obtain ⟨e', he'⟩ := compileAsWritten_error hmeta' document
    rw [he, he']
    exact .error e e'

/-- A reference by fragment among the data of a default, in the schema of a property. -/
theorem Draft.IsFree.agree_compile_default :
    let property : Members := [("default", .obj [("$ref", .str "#/a")]), ("const", .num (.int 1))]
    let payload : Members := [("properties", .obj [("a", .obj property)])]
    Draft.draft7.IsFree (.obj payload) ∧ Draft.draft7.KeepsData (.obj payload) ∧
      Agree CompiledSchema.SameVerdicts (compileAsWritten (.obj payload) .null)
        (compileSchema (.obj payload) .null) := by
  intro property payload
  have hplaces : ∀ d ms, Draft.Looks .draft7 (.obj payload) d (.obj ms) →
      d = .draft7 ∧ (ms = payload ∨ ms = property) := by
    intro d ms h
    obtain ⟨hd, hms⟩ := h.within [.obj payload, .obj property] (by
      intro ms hms m hm y hy
      rcases List.mem_pair.1 hms with heq | heq <;> cases heq
      · obtain rfl := List.mem_singleton.1 hm
        obtain rfl := List.mem_singleton.1 hy
        exact ⟨by simp, rfl⟩
      · rcases List.mem_pair.1 hm with rfl | rfl <;> cases hy) (by simp)
    simpa [hd] using hms
  have hfree : Draft.draft7.IsFree (.obj payload) := by
    intro d ms h
    obtain ⟨rfl, rfl | rfl⟩ := hplaces d ms h <;> exact List.forall_mem_singleton.2 (by decide)
  have hkeeps : Draft.draft7.KeepsData (.obj payload) := by
    intro d ms h m hm hk
    obtain ⟨rfl, rfl | rfl⟩ := hplaces d ms h
    · obtain rfl := List.mem_singleton.1 hm
      exact absurd hk (by decide)
    · rcases List.mem_pair.1 hm with rfl | rfl
      · exact absurd hk (by decide)
      · rfl
  exact ⟨hfree, hkeeps, Draft.IsFree.agree_compile hfree hkeeps .null⟩

/-! ## Data that are changed -/

/-- The schema of schemas asks nothing of a constant. -/
theorem CompiledSchema.metaViolation?_const (v : Json) :
    metaViolation? (.obj [("const", v)]) = none := by
  obtain ⟨fuel, hfuel⟩ : ∃ n, Resources.standard.budget (.obj [("const", v)]) = n + 2 :=
    ⟨Resources.standard.budget (.obj [("const", v)]) - 2, by
      have := Resources.le_budget_standard (.obj [("const", v)])
      omega⟩
  rw [metaViolation?_eq_none_iff (by simp), hfuel,
    Metaschema.Piece.violations_obj Metaschema.Piece.isMeta_metaScope rfl]
  generalize Resources.standard = r
  rfl

theorem plain_const (v : Json) : Plain (.obj [("const", v)]) := .leaf rfl rfl rfl

theorem compileAsWritten_const (v document : Json) :
    ∃ c, compileAsWritten (.obj [("const", v)]) document = .ok c ∧
      ∀ payload, c.violations payload = [] ↔ Json.isConstant v payload = true := by
  obtain ⟨c, hc, hschema, view, hscope⟩ := compileAsWritten_plain (plain_const v)
    (CompiledSchema.metaViolation?_const v) (fun r fuel view => rfl) document
  refine ⟨c, hc, fun payload => ?_⟩
  have hkeywords : c.scope.dialect.keywords [("const", v)] = [.constant v] := by
    rw [hscope]
    rfl
  rw [CompiledSchema.violations, hschema, Resources.budget, Nat.mul_succ, Nat.add_succ,
    Resources.violations_obj, hkeywords, List.flatMap_singleton, Keyword.violations,
    Keyword.demand_eq_nil_iff]

theorem Draft.isFree_const (v : Json) : Draft.draft7.IsFree (.obj [("const", v)]) := by
  intro d' ms hlooks
  obtain ⟨rfl, hms⟩ := hlooks.within [.obj [("const", v)]] (by
    intro ms hms m hm y hy
    obtain rfl := Json.obj.inj (List.mem_singleton.1 hms)
    obtain rfl := List.mem_singleton.1 hm
    cases hy) (List.mem_singleton.2 rfl)
  obtain rfl := Json.obj.inj (List.mem_singleton.1 hms)
  exact List.forall_mem_singleton.2 (by simp)

/-- A constant that holds a reference by fragment is taken for another one once it is rebased. -/
theorem Draft.IsFree.not_agree_compile :
    ¬ ∀ payload, Draft.draft7.IsFree payload → ∀ document,
      Agree CompiledSchema.SameVerdicts (compileAsWritten payload document)
        (compileSchema payload document) := by
  intro hagree
  have h := hagree (.obj [("const", .obj [("$ref", .str "#/a")])]) (Draft.isFree_const _) .null
  obtain ⟨c, hc, hverdict⟩ := compileAsWritten_const (.obj [("$ref", .str "#/a")]) .null
  obtain ⟨c', hc', hverdict'⟩ :=
    compileAsWritten_const (.obj [("$ref", .str (documentUri ++ "#/a"))]) .null
  have hash : "#/a".startsWith "#" = true := by decide +kernel
  have hrebase : rebase (.obj [("const", .obj [("$ref", .str "#/a")])]) =
      .obj [("const", .obj [("$ref", .str (documentUri ++ "#/a"))])] := by
    simp [rebase, rebaseMembers, rebaseMember, hash]
  rw [compileSchema_eq, hrebase, hc, hc'] at h
  cases h with
  | ok same =>
    have haccepted := (hverdict (.obj [("$ref", .str "#/a")])).2 (by decide +kernel)
    have hchanged := (hverdict' _).1 ((same _).2 haccepted)
    revert hchanged
    decide +kernel

end MessageContract
