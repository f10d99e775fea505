import MessageContract.Proofs.Acceptance
import MessageContract.Resolve

/-!
# How a parse ends

Every finding is the one that tells that there is no document to read (`Parse.IsUnreadable`), a
fault in a document, or advice of the recommended rules (`Parse.run_cases`). What comes out, what is
told and how a refusal is routed follows from that alone, whichever stage the first finding is from
(`Parse.run_outcome`).
-/

namespace MessageContract

/-- Advice on a document. -/
structure Diagnostic.IsAdvice (d : Diagnostic) : Prop where
  severity : d.severity = .warning
  mild : d.code ≠ .uncaughtException

namespace Rules

theorem version_isRaised {doc : Json} {f : Diagnostic} (h : version doc = .error f) :
    f.IsRaised := by
  unfold version at h
  split at h
  · split at h
    · cases h
    · rw [← Except.error.inj h]
      exact Diagnostic.error_isRaised (by decide) _ _
  · rw [← Except.error.inj h]
    exact Diagnostic.error_isRaised (by decide) _ _
  · rw [← Except.error.inj h]
    exact Diagnostic.error_isRaised (by decide) _ _

/-- Whatever the recommended rules find is a warning about the root document. -/
theorem recommended_findings (doc : Json) : ∀ f ∈ recommended doc,
    ∃ code message path, (code ≠ .uncaughtException ∧ code ≠ .invalidRef) ∧
      f = .warning code message path := by
  intro f hf
  unfold recommended at hf
  split at hf
  · rcases List.mem_append.1 hf with hf | hf
    · split at hf
      · cases hf
      · rw [List.mem_singleton.1 hf]
        exact ⟨_, _, _, by decide, rfl⟩
    · split at hf
      · cases hf
      · rw [List.mem_singleton.1 hf]
        exact ⟨_, _, _, by decide, rfl⟩
  · cases hf

theorem recommended_isAdvice (doc : Json) : ∀ f ∈ recommended doc, f.IsAdvice := by
  intro f hf
  obtain ⟨code, message, path, hcode, rfl⟩ := recommended_findings doc f hf
  exact ⟨rfl, hcode.1⟩

end Rules

namespace ResolveError

theorem ofDiagnostics_cons (d : Diagnostic) (rest : List Diagnostic) :
    ofDiagnostics (d :: rest) =
      if d.code = .uncaughtException then .notAsyncApi (d :: rest) else .governance (d :: rest) := by
  have hfatal : d.code.isFatal = true ↔ d.code = .uncaughtException := by simp [Code.isFatal]
  simp only [ofDiagnostics, hfatal]

theorem ofDiagnostics_eq_notAsyncApi_iff {ds ds' : List Diagnostic} :
    ofDiagnostics ds = .notAsyncApi ds' ↔
      ds' = ds ∧ ∃ d rest, ds = d :: rest ∧ d.code = .uncaughtException := by
  cases ds with
  | nil => exact iff_of_false (by simp [ofDiagnostics]) (by simp)
  | cons d rest =>
    rw [ofDiagnostics_cons]
    by_cases hcode : d.code = .uncaughtException
    · rw [if_pos hcode, ResolveError.notAsyncApi.injEq, eq_comm]
      exact ⟨fun h => ⟨h, d, rest, rfl, hcode⟩, fun h => h.1⟩
    · rw [if_neg hcode]
      refine iff_of_false (fun h => nomatch h) fun ⟨_, d', rest', hds, hcode'⟩ => ?_
      cases hds
      exact hcode hcode'

theorem ofDiagnostics_eq_governance_iff {ds ds' : List Diagnostic} :
    ofDiagnostics ds = .governance ds' ↔
      ds' = ds ∧ ∀ d rest, ds = d :: rest → d.code ≠ .uncaughtException := by
  cases ds with
  | nil =>
    rw [ofDiagnostics, ResolveError.governance.injEq, eq_comm]
    exact ⟨fun h => ⟨h, fun _ _ hds => nomatch hds⟩, fun h => h.1⟩
  | cons d rest =>
    rw [ofDiagnostics_cons]
    by_cases hcode : d.code = .uncaughtException
    · rw [if_pos hcode]
      exact iff_of_false (fun h => nomatch h) fun h => h.2 d rest rfl hcode
    · rw [if_neg hcode, ResolveError.governance.injEq, eq_comm]
      refine ⟨fun h => ⟨h, fun d' rest' hds => ?_⟩, fun h => h.1⟩
      cases hds
      exact hcode

end ResolveError

namespace Parse

/-- The input is a text that does not decode, or its root is no mapping. -/
inductive IsUnreadable : Input → Prop
  | undecodable {t : String} {e : DecodeError} (decoded : decode t = .error e) :
      IsUnreadable (.text t)
  | textRoot {t : String} {v : Json} (decoded : decode t = .ok v) (other : ∀ ms, v ≠ .obj ms) :
      IsUnreadable (.text t)
  | jsonRoot {v : Json} (other : ∀ ms, v ≠ .obj ms) : IsUnreadable (.json v)

theorem isObject_eq_false_iff {v : Json} : v.isObject = false ↔ ∀ ms, v ≠ .obj ms := by
  cases v with
  | obj ms => simp [Json.isObject]
  | _ => simp [Json.isObject]

theorem exists_root_error_iff {input : Input} :
    (∃ reason, root input = .error reason) ↔ IsUnreadable input := by
  -- the root of a decoded tree
  have hroot : ∀ v, tree input = .ok v →
      ((∃ reason, root input = .error reason) ↔ ∀ ms, v ≠ .obj ms) := by
    intro v hv
    rw [← isObject_eq_false_iff, root, hv]
    by_cases hobject : v.isObject = true <;> simp [hobject]
  cases input with
  | json v =>
    rw [hroot v rfl]
    constructor
    · exact IsUnreadable.jsonRoot
    · rintro ⟨⟩
      assumption
  | text t =>
    cases ht : decode t with
    | error e =>
      refine iff_of_true ⟨e.message, ?_⟩ (.undecodable ht)
      simp [root, tree, ht, Except.mapError]
    | ok v =>
      rw [hroot v (by simp [tree, ht, Except.mapError])]
      constructor
      · exact IsUnreadable.textRoot ht
      · intro h
        cases h with
        | undecodable h => simp [ht] at h
        | textRoot h other =>
          rw [ht] at h
          exact Except.ok.inj h ▸ other

/-- Behind what was found before, the rules raise faults and give advice. -/
theorem mem_judge_diagnostics {options : ParseOptions} {v : Version} {doc : Json}
    {found : List Diagnostic} {visits : List Visit} {f : Diagnostic}
    (hf : f ∈ (judge options v doc found visits).diagnostics) :
    f ∈ found ∨ f.IsRaised ∨ options.recommended = true ∧ f ∈ Rules.recommended doc := by
  simp only [judge, List.mem_append, or_assoc] at hf
  rcases hf with hf | hf | hf | hf
  · exact Or.inl hf
  · split at hf
    · exact Or.inr (Or.inl (Rules.core_findings doc v f hf))
    · cases hf
  · exact Or.inr (Or.inl (Rules.build_findings doc options.formats options.core v _ f hf))
  · split at hf
    · next hadvice => exact Or.inr (Or.inr ⟨hadvice, hf⟩)
    · cases hf

/-- What the rules leave of a document without unreadable parts. -/
theorem judge_diagnostics {options : ParseOptions} {v : Version} {doc : Json}
    {found : List Diagnostic} {visits : List Visit} (hfound : ∀ f ∈ found, f.IsFault) :
    ∀ f ∈ (judge options v doc found visits).diagnostics,
      f.IsFault ∨ options.recommended = true ∧ f.IsAdvice := by
  intro f hf
  rcases mem_judge_diagnostics hf with hf | hraised | ⟨hadvice, hf⟩
  · exact Or.inl (hfound f hf)
  · exact Or.inl hraised.toIsFault
  · exact Or.inr ⟨hadvice, Rules.recommended_isAdvice doc f hf⟩

theorem judge_document_eq_none_iff {options : ParseOptions} {v : Version} {doc : Json}
    {found : List Diagnostic} {visits : List Visit} :
    (judge options v doc found visits).document = none ↔
      ∃ f ∈ (judge options v doc found visits).diagnostics, f.isError = true := by
  have hdocument : (judge options v doc found visits).document =
      if (judge options v doc found visits).diagnostics.any Diagnostic.isError then none
      else some ⟨v, doc, (Rules.extract doc options.formats options.core v).1⟩ := rfl
  rw [hdocument, ← List.any_eq_true, ite_eq_left_iff]
  simp only [reduceCtorEq, imp_false, not_not]

/-- Either there is no document to read and nothing else is told, or the findings are faults and
advice, and a document comes out unless there is a fault. -/
theorem run_cases (w : World) (settings : FetchSettings) (options : ParseOptions)
    (location : Location) (input : Input) :
    (IsUnreadable input ∧ ∃ reason,
      run w settings options location input = refused (.error .uncaughtException reason [])) ∨
    (¬ IsUnreadable input ∧
      (∀ f ∈ (run w settings options location input).diagnostics,
        f.IsFault ∨ options.recommended = true ∧ f.IsAdvice) ∧
      ((run w settings options location input).document = none ↔
        ∃ f ∈ (run w settings options location input).diagnostics, f.isError = true)) := by
  unfold run
  cases hroot : root input with
  | error reason => exact Or.inl ⟨exists_root_error_iff.1 ⟨reason, hroot⟩, reason, rfl⟩
  | ok raw =>
    have hreadable : ¬ IsUnreadable input := by
      intro h
      obtain ⟨reason, hreason⟩ := exists_root_error_iff.2 h
      rw [hroot] at hreason
      cases hreason
    refine Or.inr ⟨hreadable, ?_⟩
    dsimp only
    cases hversion : Rules.version raw with
    | error d =>
      have hd := (Rules.version_isRaised hversion).toIsFault
      refine ⟨fun f hf => ?_, iff_of_true rfl ⟨d, List.mem_singleton.2 rfl, hd.isError⟩⟩
      rw [List.mem_singleton.1 hf]
      exact Or.inl hd
    | ok v =>
      exact ⟨judge_diagnostics fun f hf => (found_isFinding f hf).isFault,
        judge_document_eq_none_iff⟩

/-- What comes out of a parse, what is told, and how a refusal is routed. -/
structure Outcome (options : ParseOptions) (input : Input) (p : Parse) : Prop where
  /-- There is no document exactly if an error is told. -/
  document_eq_none_iff : p.document = none ↔ ∃ f ∈ p.diagnostics, f.isError = true
  /-- A document comes with warnings only. -/
  warnings : ∀ d, p.document = some d → ∀ f ∈ p.diagnostics, f.severity = .warning
  /-- A document comes with nothing at all unless advice is asked for. -/
  silent : ∀ d, p.document = some d → options.recommended = false → p.diagnostics = []
  /-- That there is no document to read is told exactly if there is none. -/
  uncaught_iff : (∃ f ∈ p.diagnostics, f.code = .uncaughtException) ↔ IsUnreadable input
  /-- It is told alone. -/
  alone : ∀ f ∈ p.diagnostics, f.code = .uncaughtException → p.diagnostics = [f]
  /-- A refusal is never routed by an empty list. -/
  told : p.document = none → p.diagnostics ≠ []
  notAsyncApi_iff : ∀ ds, p.resolve = .error (.notAsyncApi ds) ↔
    ds = p.diagnostics ∧ IsUnreadable input
  governance_iff : ∀ ds, p.resolve = .error (.governance ds) ↔
    ds = p.diagnostics ∧ p.document = none ∧ ¬ IsUnreadable input

theorem outcome_of_unreadable {options : ParseOptions} {input : Input} (reason : String)
    (h : IsUnreadable input) :
    Outcome options input (refused (.error .uncaughtException reason [])) where
  document_eq_none_iff := iff_of_true rfl ⟨_, List.mem_singleton.2 rfl, rfl⟩
  warnings d hd := by cases hd
  silent d hd := by cases hd
  uncaught_iff := iff_of_true ⟨_, List.mem_singleton.2 rfl, rfl⟩ h
  alone f hf _ := by rw [List.mem_singleton.1 hf]; rfl
  told _ := by simp [refused]
  notAsyncApi_iff ds := by
    show Except.error (ResolveError.ofDiagnostics [_]) = _ ↔ _
    rw [Except.error.injEq, ResolveError.ofDiagnostics_eq_notAsyncApi_iff]
    exact and_congr_right fun _ => iff_of_true ⟨_, [], rfl, rfl⟩ h
  governance_iff ds := by
    show Except.error (ResolveError.ofDiagnostics [_]) = _ ↔ _
    rw [Except.error.injEq, ResolveError.ofDiagnostics_eq_governance_iff]
    refine and_congr_right fun _ => iff_of_false (fun hcode => ?_) fun hreadable => hreadable.2 h
    exact hcode _ [] rfl rfl

theorem outcome_of_readable {options : ParseOptions} {input : Input} {p : Parse}
    (h : ¬ IsUnreadable input)
    (hfound : ∀ f ∈ p.diagnostics, f.IsFault ∨ options.recommended = true ∧ f.IsAdvice)
    (hnone : p.document = none ↔ ∃ f ∈ p.diagnostics, f.isError = true) :
    Outcome options input p := by
  have hmild : ∀ f ∈ p.diagnostics, f.code ≠ .uncaughtException := by
    intro f hf
    rcases hfound f hf with hfault | ⟨_, hadvice⟩
    · exact hfault.mild
    · exact hadvice.mild
  -- where a document comes out nothing is an error
  have hadvice : ∀ d, p.document = some d → ∀ f ∈ p.diagnostics,
      options.recommended = true ∧ f.IsAdvice := by
    intro d hd f hf
    rcases hfound f hf with hfault | hadvice
    · rw [hnone.2 ⟨f, hf, hfault.isError⟩] at hd
      cases hd
    · exact hadvice
  have hresolve : p.document = none → p.resolve = .error (.ofDiagnostics p.diagnostics) := by
    intro hd
    simp only [resolve, hd]
  refine ⟨hnone, fun d hd f hf => (hadvice d hd f hf).2.severity, ?_, ?_, ?_, ?_, ?_, ?_⟩
  · intro d hd hoff
    rw [List.eq_nil_iff_forall_not_mem]
    intro f hf
    have hon := (hadvice d hd f hf).1
    rw [hoff] at hon
    cases hon
  · exact iff_of_false (fun ⟨f, hf, hcode⟩ => hmild f hf hcode) h
  · exact fun f hf hcode => absurd hcode (hmild f hf)
  · intro hd hnil
    obtain ⟨f, hf, _⟩ := hnone.1 hd
    rw [hnil] at hf
    cases hf
  · intro ds
    refine iff_of_false (fun heq => ?_) fun hunreadable => h hunreadable.2
    cases hd : p.document with
    | some d => simp [resolve, hd] at heq
    | none =>
      rw [hresolve hd, Except.error.injEq, ResolveError.ofDiagnostics_eq_notAsyncApi_iff] at heq
      obtain ⟨_, f, rest, hds, hcode⟩ := heq
      exact hmild f (hds ▸ List.mem_cons_self) hcode
  · intro ds
    cases hd : p.document with
    | some d => simp [resolve, hd]
    | none =>
      rw [hresolve hd, Except.error.injEq, ResolveError.ofDiagnostics_eq_governance_iff]
      refine and_congr_right fun _ => iff_of_true ?_ ⟨rfl, h⟩
      intro f rest hds
      exact hmild f (hds ▸ List.mem_cons_self)

/-- How every parse ends. -/
theorem run_outcome (w : World) (settings : FetchSettings) (options : ParseOptions)
    (location : Location) (input : Input) :
    Outcome options input (run w settings options location input) := by
  rcases run_cases w settings options location input with
    ⟨hunreadable, reason, hrun⟩ | ⟨hreadable, hfound, hnone⟩
  · rw [hrun]
    exact outcome_of_unreadable reason hunreadable
  · exact outcome_of_readable hreadable hfound hnone

end Parse
end MessageContract
