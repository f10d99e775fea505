import MessageContract.CommandLine.Run
import MessageContract.Proofs.Strictness
import MessageContract.Proofs.Validation

/-!
# Exit codes

A call of the command line cannot report if its payload, the client or the root document is not to
be had (`CommandLine.Call.IsBlocked`); that alone gives exit code 2. Of the other calls those give 0
whose document is accepted, and its payload with it (`CommandLine.Call.Succeeds`). Neither depends
on what is asked of the report or on the recommended rules, nor on what references lead to
(`CommandLine.run_ends`).
-/

namespace MessageContract

variable {w : World} {settings : FetchSettings}

/-! ## Sources -/

/-- The root document is not to be had. -/
inductive Source.IsUnavailable (w : World) (settings : FetchSettings) : Source → Prop
  | unreadable {path : FilePath} {e : IoError} (read : w.readText path = .error e) :
      IsUnavailable w settings (.file path)
  | malformed {text : String} {e : UrlError} (parsed : Url.parse text = .error e) :
      IsUnavailable w settings (.url text)
  | unfetched {text : String} {u : Url} {e : FetchError} (parsed : Url.parse text = .ok u)
      (fetched : w.fetchUrl settings u = .error e) : IsUnavailable w settings (.url text)

/-- A document comes out of the source. -/
def Source.Accepts (w : World) (settings : FetchSettings) (options : ParseOptions) (s : Source)
    (d : Document) : Prop :=
  ∃ p, s.parse w settings options = .ok p ∧ p.document = some d

/-- What was found in a document is no failure to fetch it. -/
theorem ResolveError.ofDiagnostics_ne_fetch (ds : List Diagnostic) (e : FetchError) :
    ResolveError.ofDiagnostics ds ≠ .fetch e := by
  unfold ResolveError.ofDiagnostics
  split
  · split <;> nofun
  · nofun

namespace Source

theorem exists_read_error_iff {s : Source} :
    (∃ e, s.read w settings = .error e) ↔ s.IsUnavailable w settings := by
  cases s with
  | given input => exact iff_of_false (by simp [read]) nofun
  | file path =>
    rw [read, World.fetch]
    cases hread : w.readText path with
    | error e => exact iff_of_true ⟨_, rfl⟩ (.unreadable hread)
    | ok text =>
      refine iff_of_false (by simp [Except.mapError, Except.map]) fun h => ?_
      cases h with
      | unreadable h => cases hread.symm.trans h
  | url text =>
    rw [read]
    cases hparsed : Url.parse text with
    | error e => exact iff_of_true ⟨_, rfl⟩ (.malformed hparsed)
    | ok u =>
      dsimp only
      cases hfetched : w.fetchUrl settings u with
      | error e => exact iff_of_true ⟨_, rfl⟩ (.unfetched hparsed hfetched)
      | ok body =>
        refine iff_of_false (by simp [Except.map]) fun h => ?_
        cases h with
        | malformed h => cases hparsed.symm.trans h
        | unfetched h h' =>
          obtain rfl := Except.ok.inj (hparsed.symm.trans h)
          cases hfetched.symm.trans h'

theorem exists_parse_error_iff {s : Source} (options : ParseOptions) :
    (∃ e, s.parse w settings options = .error e) ↔ s.IsUnavailable w settings := by
  rw [← exists_read_error_iff, parse]
  cases s.read w settings <;> simp [Except.map]

/-- What keeps a source from being resolved, and what comes out of it, is its parse. -/
theorem resolve_cases (s : Source) (w : World) (settings : FetchSettings)
    (options : ParseOptions) :
    ((settings.isSendable = false ∨ s.IsUnavailable w settings) ∧
      ∃ e, s.resolve w settings options = .error (.fetch e)) ∨
    (¬(settings.isSendable = false ∨ s.IsUnavailable w settings) ∧
      ((∃ d, s.Accepts w settings options d ∧ s.resolve w settings options = .ok d) ∨
        (∀ d, ¬ s.Accepts w settings options d) ∧
          ∃ ds, s.resolve w settings options = .error (.ofDiagnostics ds))) := by
  unfold resolve FetchSettings.check
  cases hsendable : settings.isSendable with
  | false => exact Or.inl ⟨Or.inl rfl, _, rfl⟩
  | true =>
    simp only [if_true]
    cases hparse : s.parse w settings options with
    | error e => exact Or.inl ⟨Or.inr ((exists_parse_error_iff options).1 ⟨e, hparse⟩), e, rfl⟩
    | ok p =>
      have havailable : ¬ s.IsUnavailable w settings := by
        intro h
        obtain ⟨e, he⟩ := (exists_parse_error_iff options).2 h
        cases hparse.symm.trans he
      refine Or.inr ⟨by simpa using havailable, ?_⟩
      cases hdocument : p.document with
      | some d => exact Or.inl ⟨d, ⟨p, hparse, hdocument⟩, by simp [Parse.resolve, hdocument]⟩
      | none =>
        refine Or.inr ⟨?_, p.diagnostics, by simp [Parse.resolve, hdocument]⟩
        rintro d ⟨p', hp', hd⟩
        obtain rfl := Except.ok.inj (hparse.symm.trans hp')
        cases hdocument.symm.trans hd

/-- Recommended rules do not decide what comes out. -/
theorem accepts_recommended {s : Source} {core : Bool} {formats : Registry} (r r' : Bool)
    {d : Document} (h : s.Accepts w settings ⟨core, r, formats⟩ d) :
    s.Accepts w settings ⟨core, r', formats⟩ d := by
  obtain ⟨p, hp, hd⟩ := h
  rw [parse] at hp
  cases hread : s.read w settings with
  | error e =>
    rw [hread] at hp
    cases hp
  | ok source =>
    rw [hread] at hp
    obtain rfl := Except.ok.inj hp
    have hstrict := Parse.run_strictness w settings formats source.2 source.1
    have hall := hstrict.recommended_document core
    refine ⟨_, by rw [parse, hread]; rfl, ?_⟩
    cases r <;> cases r' <;> first | exact hd | exact hall.trans hd | exact hall.symm.trans hd

end Source

/-! ## Referenced documents -/

/-- The payload is valid for the first message that has the key as its id or name. -/
def Document.Admits (d : Document) (key : String) (payload : Json) : Prop :=
  ∃ before m after c, d.messages = before ++ m :: after ∧ (m.id = key ∨ m.name = some key) ∧
    (∀ n ∈ before, n.id ≠ key ∧ n.name ≠ some key) ∧
    compileSchema (m.payload.getD (.obj [])) d.json = .ok c ∧ c.violations payload = []

theorem Document.find?_eq_some_iff {d : Document} {key : String} {m : Message} :
    d.find? key = some m ↔ ∃ before after, d.messages = before ++ m :: after ∧
      (m.id = key ∨ m.name = some key) ∧ ∀ n ∈ before, n.id ≠ key ∧ n.name ≠ some key := by
  simp only [find?, List.find?_eq_some_iff_append, Message.matches, Bool.or_eq_true, beq_iff_eq,
    Bool.not_eq_true', Bool.or_eq_false_iff, beq_eq_false_iff_ne]
  constructor
  · rintro ⟨hkey, before, after, heq, hbefore⟩
    exact ⟨before, after, heq, hkey, hbefore⟩
  · rintro ⟨before, after, heq, hkey, hbefore⟩
    exact ⟨hkey, before, after, heq, hbefore⟩

theorem Document.validate_eq_ok_iff {d : Document} {key : String} {payload : Json} :
    d.validate key payload = .ok () ↔ d.Admits key payload := by
  constructor
  · intro h
    unfold validate at h
    split at h
    · cases h
    · next m hm =>
      obtain ⟨before, after, heq, hkey, hbefore⟩ := find?_eq_some_iff.1 hm
      unfold check at h
      split at h
      · cases h
      · next c hc =>
        split at h
        · next hnil =>
          exact ⟨before, m, after, c, heq, hkey, hbefore, hc, List.map_eq_nil_iff.1 hnil⟩
        · cases h
  · rintro ⟨before, m, after, c, heq, hkey, hbefore, hc, hnil⟩
    rw [validate_of_find? (find?_eq_some_iff.2 ⟨before, after, heq, hkey, hbefore⟩)]
    exact check_accepted key hc hnil

namespace CommandLine

/-- The payload of a call: the JSON value of the text in a file, or of the input for `-`. -/
def HasPayload (w : World) (input : List UInt8) (path : String) (p : Json) : Prop :=
  ∃ text, (path = "-" ∧ Utf8.decode? input = some text ∨
    path ≠ "-" ∧ w.readText (.ofString path) = .ok text) ∧ Json.read text = .ok p

theorem payload_eq_ok_iff {input : List UInt8} {path : String} {p : Json} :
    payload w input path = .ok p ↔ HasPayload w input path p := by
  have htext : ∀ text, payloadText w input path = .ok text ↔
      (path = "-" ∧ Utf8.decode? input = some text ∨
        path ≠ "-" ∧ w.readText (.ofString path) = .ok text) := by
    intro text
    unfold payloadText
    split
    · next hpath => cases Utf8.decode? input <;> simp [hpath]
    · next hpath => cases w.readText (.ofString path) <;> simp [hpath, Except.mapError]
  unfold payload HasPayload
  simp only [← htext]
  cases payloadText w input path with
  | error e => simp
  | ok text => cases hread : Json.read text <;> simp [hread, Except.mapError]

/-! ## Reports -/

theorem Report.exitCode_ofValidation {key : String} {result : Except ValidateError Unit} :
    (ofValidation key result).exitCode = 0 ↔ result = .ok () := by
  cases result with
  | ok u => simp [ofValidation, exitCode]
  | error e => cases e <;> simp [ofValidation, exitCode]

/-- What a call needs for its report is not to be had. -/
inductive Call.IsBlocked (w : World) (settings : FetchSettings) (input : List UInt8) (c : Call) :
    Prop
  /-- The payload is no text, or no JSON. -/
  | payload {key path : String} (task : c.task = .validate key path)
      (none : ∀ p, ¬ HasPayload w input path p)
  /-- Requests cannot be made. -/
  | client (unsendable : settings.isSendable = false)
  /-- The root document is not to be had. -/
  | document (unavailable : c.origin.source.IsUnavailable w settings)

/-- The document is accepted and, if a payload is to be checked, admits it. -/
def Call.Succeeds (w : World) (settings : FetchSettings) (input : List UInt8) (c : Call) : Prop :=
  ∃ d, c.origin.source.Accepts w settings c.options d ∧
    ∀ key path, c.task = .validate key path → ∀ p, HasPayload w input path p → d.Admits key p

theorem Call.report_cases (c : Call) (w : World) (settings : FetchSettings)
    (judge : Document → Report) :
    ((settings.isSendable = false ∨ c.origin.source.IsUnavailable w settings) ∧
      ∃ e, c.report w settings judge = .error e) ∨
    (¬(settings.isSendable = false ∨ c.origin.source.IsUnavailable w settings) ∧
      ∃ r, c.report w settings judge = .ok r ∧
        (r.exitCode = 0 ↔ ∃ d, c.origin.source.Accepts w settings c.options d ∧
          (judge d).exitCode = 0)) := by
  unfold report
  rcases c.origin.source.resolve_cases w settings c.options with
    ⟨hblocked, e, he⟩ | ⟨hfree, ⟨d, hd, hresolve⟩ | ⟨hnone, ds, hresolve⟩⟩
  · rw [he]
    exact Or.inl ⟨hblocked, _, rfl⟩
  · rw [hresolve]
    refine Or.inr ⟨hfree, judge d, rfl, fun h => ⟨d, hd, h⟩, ?_⟩
    rintro ⟨d', ⟨p', hp', hd'⟩, h⟩
    obtain ⟨p, hp, hpd⟩ := hd
    obtain rfl := Except.ok.inj (hp.symm.trans hp')
    obtain rfl := Option.some.inj (hpd.symm.trans hd')
    exact h
  · rw [hresolve]
    have hnone : ¬∃ d, c.origin.source.Accepts w settings c.options d ∧ (judge d).exitCode = 0 :=
      fun ⟨d, hd, _⟩ => hnone d hd
    refine Or.inr ⟨hfree, ?_⟩
    cases hrefusal : ResolveError.ofDiagnostics ds with
    | fetch e => exact absurd hrefusal (ResolveError.ofDiagnostics_ne_fetch ds e)
    | notAsyncApi ds => exact ⟨_, rfl, iff_of_false Nat.one_ne_zero hnone⟩
    | governance ds => exact ⟨_, rfl, iff_of_false Nat.one_ne_zero hnone⟩

/-- How a call ends: without a report if it is blocked, else with one that tells whether it
succeeds. -/
theorem Call.run_cases (c : Call) (w : World) (settings : FetchSettings) (input : List UInt8) :
    (c.IsBlocked w settings input ∧ (c.run w settings input).exitCode = 2 ∧
      (c.run w settings input).output = "") ∨
    (¬ c.IsBlocked w settings input ∧ ∃ r : Report,
      (c.run w settings input).exitCode = r.exitCode ∧
      (c.run w settings input).output = r.write c.json ∧
      (r.exitCode = 0 ↔ c.Succeeds w settings input)) := by
  unfold run
  split
  · next htask =>
    -- nothing but the document is needed
    have hblocked : c.IsBlocked w settings input ↔
        (settings.isSendable = false ∨ c.origin.source.IsUnavailable w settings) := by
      refine ⟨fun h => ?_, fun h => h.elim .client .document⟩
      cases h with
      | payload task => cases htask.symm.trans task
      | client h => exact Or.inl h
      | document h => exact Or.inr h
    rw [hblocked]
    rcases c.report_cases w settings .resolved with
      ⟨h, e, he⟩ | ⟨h, r, hr, hcode⟩
    · rw [he]
      exact Or.inl ⟨h, rfl, rfl⟩
    · rw [hr]
      refine Or.inr ⟨h, r, rfl, rfl, hcode.trans ?_⟩
      refine exists_congr fun d => and_congr_right fun _ => ?_
      refine iff_of_true rfl fun key path task => ?_
      cases htask.symm.trans task
  · next key path htask =>
    cases hpayload : CommandLine.payload w input path with
    | error e =>
      refine Or.inl ⟨.payload htask fun p hp => ?_, rfl, rfl⟩
      cases hpayload.symm.trans (payload_eq_ok_iff.2 hp)
    | ok p =>
      have hp := payload_eq_ok_iff.1 hpayload
      have hunique : ∀ p', HasPayload w input path p' → p' = p := fun p' hp' =>
        (Except.ok.inj (hpayload.symm.trans (payload_eq_ok_iff.2 hp'))).symm
      have hblocked : c.IsBlocked w settings input ↔
          (settings.isSendable = false ∨ c.origin.source.IsUnavailable w settings) := by
        refine ⟨fun h => ?_, fun h => h.elim .client .document⟩
        cases h with
        | payload task none =>
          obtain ⟨rfl, rfl⟩ := Task.validate.inj (htask.symm.trans task)
          exact absurd hp (none p)
        | client h => exact Or.inl h
        | document h => exact Or.inr h
      rw [hblocked]
      dsimp only [Call.validate]
      rcases c.report_cases w settings
        fun d => .ofValidation key (d.validate key p) with ⟨h, e, he⟩ | ⟨h, r, hr, hcode⟩
      · rw [he]
        exact Or.inl ⟨h, rfl, rfl⟩
      · rw [hr]
        refine Or.inr ⟨h, r, rfl, rfl, hcode.trans ?_⟩
        refine exists_congr fun d => and_congr_right fun _ => ?_
        rw [Report.exitCode_ofValidation, Document.validate_eq_ok_iff]
        constructor
        · intro hadmits key' path' task p' hp'
          obtain ⟨rfl, rfl⟩ := Task.validate.inj (htask.symm.trans task)
          rwa [hunique p' hp']
        · exact fun hall => hall key path htask p hp

/-- Which report is asked for and whether there is advice does not matter for success. -/
theorem Call.Succeeds.congr {input : List UInt8} {c c' : Call} (htask : c'.task = c.task)
    (horigin : c'.origin = c.origin) (h : c.Succeeds w settings input) :
    c'.Succeeds w settings input := by
  obtain ⟨d, hd, hall⟩ := h
  refine ⟨d, ?_, fun key path task => hall key path (htask ▸ task)⟩
  rw [horigin]
  exact Source.accepts_recommended c.recommended c'.recommended hd

theorem Call.IsBlocked.congr {input : List UInt8} {c c' : Call} (htask : c'.task = c.task)
    (horigin : c'.origin = c.origin) (h : c.IsBlocked w settings input) :
    c'.IsBlocked w settings input := by
  cases h with
  | payload task none => exact .payload (htask.trans task) none
  | client h => exact .client h
  | document h => exact .document (horigin ▸ h)

/-- How a run of the program on arguments that make up a call ends. -/
structure Ends (w : World) (settings : FetchSettings) (input : List UInt8) (c : Call)
    (o : Outcome) : Prop where
  /-- Exit code 2 tells that the call was blocked. -/
  blocked_iff : o.exitCode = 2 ↔ c.IsBlocked w settings input
  /-- Then nothing is written. -/
  silent : o.exitCode = 2 → o.output = ""
  /-- Exit code 0 tells that the document was accepted, and the payload with it. -/
  succeeds_iff : o.exitCode = 0 ↔ ¬ c.IsBlocked w settings input ∧ c.Succeeds w settings input
  /-- All other calls end with 1. -/
  refused_iff : o.exitCode = 1 ↔ ¬ c.IsBlocked w settings input ∧ ¬ c.Succeeds w settings input
  /-- A call that is not blocked writes a report. -/
  reported : o.exitCode ≠ 2 → o.output ≠ "" ∧
    ∃ r : Report, o.exitCode = r.exitCode ∧ o.output = r.write c.json

end CommandLine

end MessageContract
