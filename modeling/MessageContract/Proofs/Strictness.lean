import MessageContract.Proofs.Outcome

/-!
# Which rules run

Nothing before the rules looks at the options (`Parse.run_stages`), so two parses of one source that
differ in their rules differ in what the rules make of one tree. Recommended rules add advice behind
everything else. Core rules may refuse a document, but what comes out with them comes out without
them (`Rules.build_unchecked`, `Parse.judge_core`). So the rules decide whether a document comes out,
and never which one (`Source.parse_strictness`).
-/

namespace MessageContract

namespace Rules

/-- A message that is built with its payload checked is built without the check. -/
theorem buildMessage_unchecked {doc : Json} {formats : Registry} {v : Version} {key : String}
    {message : Members} {m : Message}
    (h : buildMessage doc formats true v key message = .ok m) :
    buildMessage doc formats false v key message = .ok m := by
  unfold buildMessage payload at h ⊢
  dsimp only at h ⊢
  cases hraw : (declared v key message).payload with
  | none =>
    rw [hraw] at h
    exact h
  | some raw =>
    rw [hraw] at h
    cases hconvert : convertPayload formats v key (declared v key message) raw with
    | error e =>
      simp only [hconvert] at h
      cases h
    | ok schema =>
      simp only [hconvert] at h ⊢
      cases hcheck : checkPayload doc key schema with
      | error e =>
        rw [hcheck] at h
        cases h
      | ok u =>
        rw [hcheck] at h
        exact h

theorem build_unchecked {doc : Json} {formats : Registry} {v : Version} {ms : Members}
    (h : (build doc formats true v ms).2 = []) :
    build doc formats false v ms = build doc formats true v ms := by
  induction ms with
  | nil => rfl
  | cons n ms ih =>
    obtain ⟨key, value⟩ := n
    cases value with
    | obj message =>
      rw [build_obj] at h
      cases hbuild : buildMessage doc formats true v key message with
      | error e =>
        rw [hbuild] at h
        cases h
      | ok m =>
        rw [hbuild] at h
        rw [build_obj, build_obj, hbuild, buildMessage_unchecked hbuild, ih h]
    | _ => exact ih h

theorem recommended_any_isError (doc : Json) : (recommended doc).any Diagnostic.isError = false := by
  rw [List.any_eq_false]
  intro f hf
  have hwarning := (recommended_isAdvice doc f hf).severity
  simp [Diagnostic.isError, hwarning]

end Rules

namespace Parse

/-! ## Stages -/

/-- A parse is refused before the rules run, or it is what they make of a tree; the options bear on
the rules alone. -/
theorem run_stages (w : World) (settings : FetchSettings) (location : Location) (input : Input) :
    (∃ f, ∀ options, run w settings options location input = refused f) ∨
    ∃ v doc found visits, (∀ f ∈ found, Diagnostic.IsFault f) ∧
      ∀ options, run w settings options location input = judge options v doc found visits := by
  unfold run
  cases hroot : root input with
  | error reason => exact Or.inl ⟨_, fun _ => rfl⟩
  | ok raw =>
    dsimp only
    cases hversion : Rules.version raw with
    | error f => exact Or.inl ⟨f, fun _ => rfl⟩
    | ok v => exact Or.inr ⟨v, _, _, _, fun f hf => (found_isFinding f hf).isFault, fun _ => rfl⟩

/-! ## Rules -/

section

variable {formats : Registry} {v : Version} {doc : Json} {found : List Diagnostic}
  {visits : List Visit}

theorem judge_recommended_diagnostics (core : Bool) :
    (judge ⟨core, true, formats⟩ v doc found visits).diagnostics =
      (judge ⟨core, false, formats⟩ v doc found visits).diagnostics ++ Rules.recommended doc := by
  simp [judge]

/-- Advice does not keep a document from coming out. -/
theorem judge_recommended_document (core : Bool) :
    (judge ⟨core, true, formats⟩ v doc found visits).document =
      (judge ⟨core, false, formats⟩ v doc found visits).document := by
  simp only [judge, if_pos, List.any_append, Rules.recommended_any_isError, Bool.or_false,
    Bool.false_eq_true, if_false, List.append_nil]

/-- What comes out with the core rules comes out without them. -/
theorem judge_core (hfound : ∀ f ∈ found, Diagnostic.IsFault f) {d : Document}
    (h : (judge ⟨true, false, formats⟩ v doc found visits).document = some d) :
    (judge ⟨false, false, formats⟩ v doc found visits).document = some d := by
  obtain ⟨rfl, _, _, hcore, hextract⟩ := judge_document hfound h
  have hchecked : Rules.extract doc formats true v = (d.messages, []) := hextract
  have hunchecked : Rules.extract doc formats false v = Rules.extract doc formats true v :=
    Rules.build_unchecked (congrArg Prod.snd hchecked)
  have hfree : (judge ⟨false, false, formats⟩ v doc [] visits).document =
      (judge ⟨true, false, formats⟩ v doc [] visits).document := by
    simp only [judge, hunchecked, if_pos, hcore rfl, Bool.false_eq_true, if_false]
  rw [hfree, h]

end

/-- The parses of one source under all rules: `parse core recommended`. -/
structure Strictness (parse : Bool → Bool → Parse) : Prop where
  /-- Recommended rules leave what comes out as it is. -/
  recommended_document : ∀ core, (parse core true).document = (parse core false).document
  /-- They add warnings behind what is told without them. -/
  recommended_diagnostics : ∀ core, ∃ advice, (∀ f ∈ advice, f.severity = .warning) ∧
    (parse core true).diagnostics = (parse core false).diagnostics ++ advice
  /-- Whatever comes out with the core rules comes out without them. -/
  core_document : ∀ recommended recommended' d, (parse true recommended).document = some d →
    (parse false recommended').document = some d
  /-- Two parses that let a document through let the same one through. -/
  one_document : ∀ core recommended core' recommended' d d',
    (parse core recommended).document = some d →
    (parse core' recommended').document = some d' → d = d'

/-- It is enough that recommended rules add advice and core rules only refuse. -/
theorem Strictness.intro {parse : Bool → Bool → Parse}
    (hdocument : ∀ core, (parse core true).document = (parse core false).document)
    (hadvice : ∀ core, ∃ advice, (∀ f ∈ advice, f.severity = .warning) ∧
      (parse core true).diagnostics = (parse core false).diagnostics ++ advice)
    (hcore : ∀ d, (parse true false).document = some d → (parse false false).document = some d) :
    Strictness parse := by
  have hany : ∀ core recommended, (parse core recommended).document =
      (parse core false).document := by
    intro core recommended
    cases recommended with
    | false => rfl
    | true => exact hdocument core
  -- the parse without any rules lets through what any parse does
  have hfree : ∀ core recommended d, (parse core recommended).document = some d →
      (parse false false).document = some d := by
    intro core recommended d hd
    rw [hany] at hd
    cases core with
    | false => exact hd
    | true => exact hcore d hd
  refine ⟨hdocument, hadvice, fun recommended recommended' d hd => ?_, ?_⟩
  · rw [hany false recommended']
    exact hfree true recommended d hd
  · intro core recommended core' recommended' d d' hd hd'
    have hone := hfree core recommended d hd
    rw [hfree core' recommended' d' hd'] at hone
    exact (Option.some.inj hone).symm

theorem run_strictness (w : World) (settings : FetchSettings) (formats : Registry)
    (location : Location) (input : Input) :
    Strictness fun core recommended =>
      run w settings ⟨core, recommended, formats⟩ location input := by
  rcases run_stages w settings location input with
    ⟨f, hrun⟩ | ⟨v, doc, found, visits, hfound, hrun⟩
  · refine Strictness.intro (fun core => ?_) (fun core => ⟨[], by simp, ?_⟩) fun d hd => ?_
    · rw [hrun, hrun]
    · rw [hrun, hrun, List.append_nil]
    · rw [hrun] at hd ⊢
      exact hd
  · refine Strictness.intro (fun core => ?_) (fun core => ?_) fun d hd => ?_
    · rw [hrun, hrun]
      exact judge_recommended_document core
    · refine ⟨Rules.recommended doc, fun f hf => (Rules.recommended_isAdvice doc f hf).severity, ?_⟩
      rw [hrun, hrun]
      exact judge_recommended_diagnostics core
    · rw [hrun] at hd ⊢
      exact judge_core hfound hd

end Parse

/-- The rules have no say in whether a source can be read, and of a source that can be read they
decide whether a document comes out, but not which. -/
theorem Source.parse_strictness (w : World) (settings : FetchSettings) (formats : Registry)
    (s : Source) :
    (∃ e, ∀ options, s.parse w settings options = .error e) ∨
    ∃ parse : Bool → Bool → Parse, Parse.Strictness parse ∧ ∀ core recommended,
      s.parse w settings ⟨core, recommended, formats⟩ = .ok (parse core recommended) := by
  unfold Source.parse
  cases s.read w settings with
  | error e => exact Or.inl ⟨e, fun _ => rfl⟩
  | ok source =>
    exact Or.inr ⟨_, Parse.run_strictness w settings formats source.2 source.1, fun _ _ => rfl⟩

end MessageContract
