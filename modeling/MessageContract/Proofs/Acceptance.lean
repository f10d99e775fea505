import MessageContract.Parse
import MessageContract.Proofs.Reference.Inlining
import MessageContract.Proofs.Reference.Loading

/-!
# What stands behind an accepted document

All findings but those of the recommended rules are errors, so a document that comes out was loaded,
inlined and judged with nothing found (`Parse.accepted_of_document`), and each of its messages was
built from its declaration (`Parse.Accepted.exists_declared`).
-/

namespace MessageContract

/-- The root document with the documents that are loaded for it. -/
def World.sources (w : World) (settings : FetchSettings) (raw : Json) (location : Location) :
    Sources :=
  ⟨raw, location, (w.loadReferences settings raw location).store⟩

/-- A machine without files and network. -/
def World.bare : World := ⟨[], [], .unreachable⟩

/-- An error in a document, which is one nevertheless. -/
structure Diagnostic.IsFault (d : Diagnostic) : Prop where
  isError : d.isError = true
  mild : d.code ≠ .uncaughtException

/-- A fault that a rule finds: it belongs to the root document and is about no reference. -/
structure Diagnostic.IsRaised (d : Diagnostic) : Prop extends d.IsFault where
  source : d.source = none
  own : d.code ≠ .invalidRef

theorem Diagnostic.error_isRaised {code : Code}
    (h : code ≠ .uncaughtException ∧ code ≠ .invalidRef) (message : String) (path : List String) :
    (Diagnostic.error code message path).IsRaised :=
  ⟨⟨rfl, h.1⟩, rfl, h.2⟩

theorem Reference.IsFinding.isFault {root : Location} {d : Diagnostic}
    (h : Reference.IsFinding root d) : d.IsFault :=
  ⟨h.isError, by rw [h.code]; exact nofun⟩

namespace Rules

/-! ## Findings of the rules -/

theorem infoField_findings (info : Members) (field : String) :
    ∀ f ∈ infoField info field, f.IsRaised := by
  unfold infoField
  split <;> simp [Diagnostic.error_isRaised]

theorem info_findings (doc : Json) : ∀ f ∈ info doc, f.IsRaised := by
  unfold info
  split
  · intro f hf
    exact (List.mem_append.1 hf).elim (infoField_findings _ _ f) (infoField_findings _ _ f)
  · simp [Diagnostic.error_isRaised]
  · simp [Diagnostic.error_isRaised]

theorem channels_findings (doc : Json) (v : Version) : ∀ f ∈ channels doc v, f.IsRaised := by
  unfold channels
  split
  · simp
  · simp [Diagnostic.error_isRaised]
  · split <;> simp [Diagnostic.error_isRaised]

theorem components_findings (doc : Json) : ∀ f ∈ components doc, f.IsRaised := by
  unfold components
  split
  · simp
  · split <;> simp [Diagnostic.error_isRaised]
  · simp [Diagnostic.error_isRaised]

theorem messageShape_findings (key : String) (message : Json) :
    ∀ f ∈ messageShape key message, f.IsRaised := by
  unfold messageShape
  split
  · split
    · simp
    · split <;> simp [Diagnostic.error_isRaised]
  · simp [Diagnostic.error_isRaised]

theorem repeatedIds_findings (earlier : List (String × String)) (ms : Members) :
    ∀ f ∈ repeatedIds earlier ms, f.IsRaised := by
  induction ms generalizing earlier with
  | nil => simp [repeatedIds]
  | cons m ms ih =>
    rw [repeatedIds]
    split
    · exact ih earlier
    · next id _ =>
      dsimp only
      split
      · intro f hf
        rcases List.mem_cons.1 hf with rfl | hf
        · exact Diagnostic.error_isRaised (by decide) _ _
        · exact ih _ f hf
      · exact ih _

/-- Whatever the core rules find is a fault of the root document. -/
theorem core_findings (doc : Json) (v : Version) : ∀ f ∈ core doc v, f.IsRaised := by
  intro f hf
  simp only [core, List.mem_append, List.mem_flatMap, or_assoc] at hf
  rcases hf with hf | hf | hf | ⟨m, _, hf⟩ | hf
  · exact info_findings doc f hf
  · exact channels_findings doc v f hf
  · exact components_findings doc f hf
  · exact messageShape_findings m.1 m.2 f hf
  · split at hf
    · exact repeatedIds_findings [] _ f hf
    · cases hf

/-! ## Building messages -/

theorem convertPayload_findings {formats : Registry} {v : Version} {key : String} {d : Declared}
    {raw : Json} {f : Diagnostic} (h : convertPayload formats v key d raw = .error f) :
    f.IsRaised := by
  unfold convertPayload at h
  split at h
  · rw [← Except.error.inj h]
    exact Diagnostic.error_isRaised (by decide) _ _
  · split at h
    · cases h
    · rw [← Except.error.inj h]
      exact Diagnostic.error_isRaised (by decide) _ _

theorem checkPayload_findings {doc : Json} {key : String} {schema : Json} {f : Diagnostic}
    (h : checkPayload doc key schema = .error f) : f.IsRaised := by
  unfold checkPayload at h
  split at h
  · cases h
  · rw [← Except.error.inj h]
    exact Diagnostic.error_isRaised (by decide) _ _

theorem payload_findings {doc : Json} {formats : Registry} {checked : Bool} {v : Version}
    {key : String} {d : Declared} {f : Diagnostic}
    (h : payload doc formats checked v key d = .error f) : f.IsRaised := by
  unfold payload at h
  split at h
  · cases h
  · split at h
    · next e he =>
      rw [← Except.error.inj h]
      exact convertPayload_findings he
    · next schema _ =>
      split at h
      · cases hc : checkPayload doc key schema with
        | ok u =>
          rw [hc] at h
          cases h
        | error e =>
          rw [hc] at h
          rw [← Except.error.inj h]
          exact checkPayload_findings hc
      · cases h

theorem buildMessage_findings {doc : Json} {formats : Registry} {checked : Bool} {v : Version}
    {key : String} {message : Members} {f : Diagnostic}
    (h : buildMessage doc formats checked v key message = .error f) : f.IsRaised := by
  unfold buildMessage at h
  dsimp only at h
  cases hp : payload doc formats checked v key (declared v key message) with
  | ok schema =>
    rw [hp] at h
    cases h
  | error e =>
    rw [hp] at h
    rw [← Except.error.inj h]
    exact payload_findings hp

theorem build_obj (doc : Json) (formats : Registry) (checked : Bool) (v : Version) (key : String)
    (message ms : Members) :
    build doc formats checked v ((key, .obj message) :: ms) =
      match buildMessage doc formats checked v key message with
      | .ok m => (m :: (build doc formats checked v ms).1, (build doc formats checked v ms).2)
      | .error d => ((build doc formats checked v ms).1, d :: (build doc formats checked v ms).2) :=
  rfl

theorem build_findings (doc : Json) (formats : Registry) (checked : Bool) (v : Version)
    (ms : Members) : ∀ f ∈ (build doc formats checked v ms).2, f.IsRaised := by
  induction ms with
  | nil => simp [build]
  | cons m ms ih =>
    obtain ⟨key, value⟩ := m
    cases value with
    | obj message =>
      rw [build_obj]
      split
      · exact ih
      · next d hd =>
        intro f hf
        rcases List.mem_cons.1 hf with rfl | hf
        · exact buildMessage_findings hd
        · exact ih f hf
    | _ => exact ih

/-- A message is built from one of the declarations. -/
theorem exists_of_mem_build {doc : Json} {formats : Registry} {checked : Bool} {v : Version}
    {ms : Members} {m : Message} (h : m ∈ (build doc formats checked v ms).1) :
    ∃ key message, (key, Json.obj message) ∈ ms ∧
      buildMessage doc formats checked v key message = .ok m := by
  induction ms with
  | nil => simp [build] at h
  | cons n ms ih =>
    have hrest : m ∈ (build doc formats checked v ms).1 → ∃ key message,
        (key, Json.obj message) ∈ n :: ms ∧
          buildMessage doc formats checked v key message = .ok m := by
      intro hm
      obtain ⟨key, message, hmem, hbuild⟩ := ih hm
      exact ⟨key, message, List.mem_cons_of_mem _ hmem, hbuild⟩
    obtain ⟨key, value⟩ := n
    cases value with
    | obj message =>
      rw [build_obj] at h
      split at h
      · next m' hm' =>
        rcases List.mem_cons.1 h with rfl | h
        · exact ⟨key, message, List.mem_cons_self, hm'⟩
        · exact hrest h
      · exact hrest h
    | _ => exact hrest h

/-- The payload of a message was converted from the declared one, and is a schema if that was
checked. -/
theorem buildMessage_ok {doc : Json} {formats : Registry} {checked : Bool} {v : Version}
    {key : String} {message : Members} {m : Message}
    (h : buildMessage doc formats checked v key message = .ok m) :
    m.key = key ∧ m.id = idOf v key message ∧ m.schemaFormat = formatOf v (declared v key message) ∧
      ((declared v key message).payload = none ∧ m.payload = none ∨
        ∃ raw f schema, (declared v key message).payload = some raw ∧
          formats.find? m.schemaFormat = some f ∧ f.convert raw = .ok schema ∧
          m.payload = some schema ∧ (checked = true → ∃ c, compileSchema schema doc = .ok c)) := by
  unfold buildMessage at h
  dsimp only at h
  cases hp : payload doc formats checked v key (declared v key message) with
  | error e =>
    rw [hp] at h
    cases h
  | ok result =>
    rw [hp] at h
    obtain rfl := Except.ok.inj h
    refine ⟨rfl, rfl, rfl, ?_⟩
    show _ ∨ ∃ raw f schema, _ ∧ _ ∧ _ ∧ result = some schema ∧ _
    unfold payload at hp
    split at hp
    · next hnone => exact Or.inl ⟨hnone, (Except.ok.inj hp).symm⟩
    · next raw hraw =>
      cases hconvert : convertPayload formats v key (declared v key message) raw with
      | error e =>
        rw [hconvert] at hp
        cases hp
      | ok schema =>
        rw [hconvert] at hp
        have hformat : ∃ f, formats.find? (formatOf v (declared v key message)) = some f ∧
            f.convert raw = .ok schema := by
          unfold convertPayload at hconvert
          split at hconvert
          · cases hconvert
          · next f hf =>
            cases hc : f.convert raw with
            | error reason =>
              rw [hc] at hconvert
              cases hconvert
            | ok schema' =>
              rw [hc] at hconvert
              exact ⟨f, hf, hc.trans (congrArg _ (Except.ok.inj hconvert))⟩
        obtain ⟨f, hf, hc⟩ := hformat
        cases checked with
        | false => exact Or.inr ⟨raw, f, schema, hraw, hf, hc, (Except.ok.inj hp).symm, by simp⟩
        | true =>
          cases hcompile : compileSchema schema doc with
          | error e =>
            simp only [checkPayload, hcompile] at hp
            cases hp
          | ok c =>
            simp only [checkPayload, hcompile] at hp
            exact Or.inr ⟨raw, f, schema, hraw, hf, hc, (Except.ok.inj hp).symm,
              fun _ => ⟨c, hcompile⟩⟩

/-- Where every payload compiles, checking them changes nothing. -/
theorem buildMessage_checked {doc : Json} {formats : Registry} {v : Version} {key : String}
    {message : Members}
    (h : ∀ m, buildMessage doc formats false v key message = .ok m → ∀ schema,
      m.payload = some schema → ∃ c, compileSchema schema doc = .ok c) :
    buildMessage doc formats true v key message = buildMessage doc formats false v key message := by
  unfold buildMessage payload at h ⊢
  dsimp only at h ⊢
  cases hd : (declared v key message).payload with
  | none => rfl
  | some raw =>
    cases hconvert : convertPayload formats v key (declared v key message) raw with
    | error e => simp only [hconvert]
    | ok schema =>
      rw [hd] at h
      simp only [hconvert] at h ⊢
      obtain ⟨c, hc⟩ := h _ rfl schema rfl
      simp only [checkPayload, hc]
      rfl

theorem build_checked {doc : Json} {formats : Registry} {v : Version} {ms : Members}
    (h : ∀ m ∈ (build doc formats false v ms).1, ∀ schema, m.payload = some schema →
      ∃ c, compileSchema schema doc = .ok c) :
    build doc formats true v ms = build doc formats false v ms := by
  induction ms with
  | nil => rfl
  | cons n ms ih =>
    obtain ⟨key, value⟩ := n
    cases value with
    | obj message =>
      rw [build_obj] at h
      have hhead : buildMessage doc formats true v key message =
          buildMessage doc formats false v key message := by
        refine buildMessage_checked fun m hm => ?_
        rw [hm] at h
        exact h m List.mem_cons_self
      have hrest : ∀ m ∈ (build doc formats false v ms).1, ∀ schema, m.payload = some schema →
          ∃ c, compileSchema schema doc = .ok c := by
        intro m hm
        refine h m ?_
        split
        · exact List.mem_cons_of_mem _ hm
        · exact hm
      rw [build_obj, build_obj, hhead, ih hrest]
    | _ => exact ih h

end Rules

/-! ## Acceptance -/

namespace Parse

/-- A root document that declares a version is loaded, inlined and judged. -/
theorem run_eq_judge (w : World) (settings : FetchSettings) (options : ParseOptions)
    (location : Location) {input : Input} {raw : Json} {v : Version}
    (hroot : root input = .ok raw) (hversion : Rules.version raw = .ok v) :
    run w settings options location input =
      judge options v (w.sources settings raw location).inline.value
        ((w.loadReferences settings raw location).findings ++
          (w.sources settings raw location).inline.findings)
        (w.loadReferences settings raw location).visits := by
  unfold run
  rw [hroot]
  dsimp only
  rw [hversion]
  rfl

/-- A document comes out of a root document: nothing was found on the way. -/
structure Accepted (w : World) (settings : FetchSettings) (options : ParseOptions)
    (location : Location) (raw : Json) (d : Document) : Prop where
  version : Rules.version raw = .ok d.version
  loaded : (w.loadReferences settings raw location).findings = []
  inlined : (w.sources settings raw location).inline.findings = []
  json : d.json = (w.sources settings raw location).inline.value
  core : options.core = true → Rules.core d.json d.version = []
  messages : Rules.extract d.json options.formats options.core d.version = (d.messages, [])

theorem eq_nil_of_isFault {fs : List Diagnostic} (h : ∀ f ∈ fs, f.IsFault)
    (hany : fs.any Diagnostic.isError = false) : fs = [] := by
  cases fs with
  | nil => rfl
  | cons f fs => simp [(h f List.mem_cons_self).isError] at hany

theorem judge_document {options : ParseOptions} {v : Version} {doc : Json}
    {found : List Diagnostic} {visits : List Visit} {d : Document}
    (hfound : ∀ f ∈ found, f.IsFault) (h : (judge options v doc found visits).document = some d) :
    found = [] ∧ d.version = v ∧ d.json = doc ∧ (options.core = true → Rules.core doc v = []) ∧
      Rules.extract doc options.formats options.core v = (d.messages, []) := by
  obtain ⟨hany, hd⟩ := Option.ite_none_left_eq_some.1 h
  obtain rfl := Option.some.inj hd
  simp only [Bool.not_eq_true, List.any_append, Bool.or_eq_false_iff] at hany
  obtain ⟨⟨⟨hf, hcore⟩, hpayloads⟩, _⟩ := hany
  have hbuild := Rules.build_findings doc options.formats options.core v (Rules.messages doc)
  have hds := eq_nil_of_isFault (fun f hf => (hbuild f hf).toIsFault) hpayloads
  refine ⟨eq_nil_of_isFault hfound hf, rfl, rfl, fun hc => ?_, Prod.ext rfl hds⟩
  rw [if_pos hc] at hcore
  exact eq_nil_of_isFault (fun f hf => (Rules.core_findings doc v f hf).toIsFault) hcore

/-- Whatever is found before the rules run is found at a reference. -/
theorem found_isFinding {w : World} {settings : FetchSettings} {raw : Json} {location : Location} :
    ∀ f ∈ (w.loadReferences settings raw location).findings ++
      (w.sources settings raw location).inline.findings, Reference.IsFinding location f := by
  intro f hf
  rcases List.mem_append.1 hf with hf | hf
  · exact w.loadReferences_findings settings raw location f hf
  · exact Sources.inline_findings _ f hf

/-- Whatever comes out was accepted. -/
theorem accepted_of_document {w : World} {settings : FetchSettings} {options : ParseOptions}
    {location : Location} {input : Input} {d : Document}
    (h : (run w settings options location input).document = some d) :
    ∃ raw, root input = .ok raw ∧ Accepted w settings options location raw d := by
  unfold run at h
  split at h
  · cases h
  · next raw hraw =>
    refine ⟨raw, hraw, ?_⟩
    split at h
    · cases h
    · next v hv =>
      have hfound : ∀ f ∈ (w.loadReferences settings raw location).findings ++
          (w.sources settings raw location).inline.findings, f.IsFault :=
        fun f hf => (found_isFinding f hf).isFault
      obtain ⟨hnil, rfl, hjson, hcore, hmessages⟩ := judge_document hfound h
      obtain ⟨hloaded, hinlined⟩ := List.append_eq_nil_iff.1 hnil
      exact ⟨hv, hloaded, hinlined, hjson, hjson ▸ hcore, hjson ▸ hmessages⟩

/-- The declaration behind a message of an accepted document. -/
theorem Accepted.exists_declared {w : World} {settings : FetchSettings} {options : ParseOptions}
    {location : Location} {raw : Json} {d : Document}
    (h : Accepted w settings options location raw d) {m : Message} (hm : m ∈ d.messages) :
    ∃ key message, (key, Json.obj message) ∈ Rules.messages d.json ∧
      Rules.buildMessage d.json options.formats options.core d.version key message = .ok m := by
  have hbuild : m ∈ (Rules.extract d.json options.formats options.core d.version).1 := by
    rw [h.messages]
    exact hm
  exact Rules.exists_of_mem_build hbuild

/-- With the core rules every payload of an accepted document was compiled. -/
theorem Accepted.exists_compiled {w : World} {settings : FetchSettings} {options : ParseOptions}
    {location : Location} {raw : Json} {d : Document}
    (h : Accepted w settings options location raw d) (hcore : options.core = true) {m : Message}
    (hm : m ∈ d.messages) {schema : Json} (hschema : m.payload = some schema) :
    ∃ c, compileSchema schema d.json = .ok c := by
  obtain ⟨key, message, _, hbuild⟩ := h.exists_declared hm
  obtain ⟨_, _, _, hpayload⟩ := Rules.buildMessage_ok hbuild
  rcases hpayload with ⟨_, hnone⟩ | ⟨raw', f, schema', _, _, _, hsome, hcompiled⟩
  · rw [hschema] at hnone
    cases hnone
  · obtain rfl := Option.some.inj (hschema.symm.trans hsome)
    exact hcompiled hcore

/-- A document that comes out without the core rules comes out with them if they find nothing in it
and its payloads compile. -/
theorem document_with_core {w : World} {settings : FetchSettings} {recommended : Bool}
    {formats : Registry} {location : Location} {input : Input} {d : Document}
    (h : (run w settings ⟨false, recommended, formats⟩ location input).document = some d)
    (hcore : Rules.core d.json d.version = [])
    (hcompiled : ∀ m ∈ d.messages, ∀ schema, m.payload = some schema →
      ∃ c, compileSchema schema d.json = .ok c) :
    (run w settings ⟨true, recommended, formats⟩ location input).document = some d := by
  have hjudge : ∀ v doc found visits,
      (judge ⟨false, recommended, formats⟩ v doc found visits).document = some d →
      (judge ⟨true, recommended, formats⟩ v doc found visits).document = some d := by
    intro v doc found visits hd
    obtain rfl := Option.some.inj (Option.ite_none_left_eq_some.1 hd).2
    have hextract : Rules.extract doc formats true v = Rules.extract doc formats false v :=
      Rules.build_checked hcompiled
    simp only [judge, hextract, if_pos, show Rules.core doc v = [] from hcore]
    exact hd
  unfold run at h ⊢
  split at h
  · cases h
  · split at h
    · cases h
    · exact hjudge _ _ _ _ h

end Parse
end MessageContract
