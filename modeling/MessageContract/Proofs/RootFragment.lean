import MessageContract.Proofs.Acceptance
import MessageContract.Proofs.Reference.Twin
import MessageContract.Proofs.Url.Fragment

/-!
# Documents behind a URL with a fragment

The fragment of a document's URL bears neither on the request for the document nor on what its
references lead to, but the root document is known by its URL as it was given, and a reference is
cut at its number sign. So a document that names itself by its file name is the root document when
it is parsed from the URL, and another document when it is parsed from the URL with a fragment.
Without such a reference both parse alike (`Source.parse_withFragment`); with one that is seen, the
document is loaded once more for the fragment (`World.visits_withFragment_iff`).
-/

namespace MessageContract

variable {w : World} {settings : FetchSettings} {raw : Json} {u : Url} {f : String}

theorem Url.agree_withFragment (u : Url) (f : String) : u.Agree (u.withFragment f) :=
  fun reference => (u.join_withFragment f reference).symm

/-! ## What is loaded has no fragment -/

namespace Location

/-- References without a number sign lead to URLs without one. -/
def LeadsBare (l : Location) : Prop :=
  ∀ reference target, '#' ∉ reference.toList → l.join reference = .ok target → target.IsBare

theorem IsBare.leadsBare {l : Location} (h : l.IsBare) : l.LeadsBare :=
  fun _ _ hr hjoin => h.join hr hjoin

theorem LeadsBare.withFragment (h : (Location.url u).LeadsBare) (f : String) :
    (Location.url (u.withFragment f)).LeadsBare := by
  intro reference target hr hjoin
  rcases Twin.root.join (u.agree_withFragment f) reference with
    ⟨target', hok, hok'⟩ | ⟨e, e', -, herror', -⟩
  · rw [hok'] at hjoin
    exact h reference target hr (hok.trans hjoin)
  · rw [herror'] at hjoin
    cases hjoin

theorem LeadsBare.isBare_of_cites {base target : Location} {document : Json} (h : base.LeadsBare)
    (hcited : Reference.Cites base document target) : target.IsBare := by
  obtain ⟨site, -, -, hjoin⟩ := hcited
  exact h _ target (Reference.sign_not_mem_document site.reference) hjoin

end Location

namespace World

variable {root l : Location}

theorem Reaches.isBare (h : w.Reaches settings root raw id l) (hroot : root.LeadsBare) :
    l.IsBare := by
  induction h with
  | root hcited _ => exact hroot.isBare_of_cites hcited
  | step _ _ hcited _ ih => exact ih.leadsBare.isBare_of_cites hcited

/-- What is stored is reached, and is not the root document. -/
theorem stored_reaches {d : Location × Json} (hd : d ∈ (w.loadReferences settings raw root).store) :
    w.Reaches settings root raw id d.1 ∧ (d.1 == root) = false := by
  obtain ⟨n, hn⟩ := w.exists_loadReferences_eq_after settings raw
  rw [hn root] at hd
  have h := Loading.after_invariant w settings root raw n
  have hstored : d ∈ (Loading.after w settings root raw n).store := hd
  rw [h.store] at hstored
  obtain ⟨visit, hvisit, hdocument⟩ := List.mem_filterMap.1 hstored
  obtain ⟨v, -, rfl⟩ := Option.map_eq_some_iff.1 hdocument
  have hmem := List.mem_map_of_mem (f := fun v => v.target) hvisit
  exact ⟨h.visits_subset (Loading.after_isFound w settings root raw n) hmem,
    h.distinct_targets.1 _ (List.mem_append_left _ hmem)⟩

theorem leadsBare_of_mem_documents (hroot : root.LeadsBare) {d : Location × Json}
    (hd : d ∈ (w.loadReferences settings raw root).documents root raw) : d.1.LeadsBare := by
  rcases List.mem_cons.1 hd with rfl | hd
  · exact hroot
  · exact ((stored_reaches hd).1.isBare hroot).leadsBare

/-! ## What is loaded for a URL with a fragment -/

/-- A reference that is seen in a document that was looked at leads to the root document. -/
def CitesRoot (w : World) (settings : FetchSettings) (raw : Json) (root : Location) : Prop :=
  ∃ d ∈ (w.loadReferences settings raw root).documents root raw, ∃ target,
    Reference.Cites d.1 d.2 target ∧ (target == root) = true

theorem ne_of_not_citesRoot (h : ¬ w.CitesRoot settings raw root) {d : Location × Json}
    (hd : d ∈ (w.loadReferences settings raw root).documents root raw) {target : Location}
    (hcited : Reference.Cites d.1 d.2 target) : (target == root) = false :=
  Bool.eq_false_iff.2 fun heq => h ⟨d, hd, target, hcited, heq⟩

/-- The same is loaded in both runs where the root document is not cited. -/
theorem loaded_twin (hu : (Location.url u).IsBare) (h : ¬ w.CitesRoot settings raw (.url u)) :
    Loading.Twin u (u.withFragment f) (w.loadReferences settings raw (.url u))
      (w.loadReferences settings raw (.url (u.withFragment f))) := by
  refine loadReferences_twin (u.agree_withFragment f) fun d hd target hcited => ?_
  have hbare := (leadsBare_of_mem_documents hu.leadsBare hd).isBare_of_cites hcited
  exact ⟨ne_of_not_citesRoot h hd hcited, hbare.beq_withFragment u f⟩

theorem visits_ne_root {v : Visit} (hv : v ∈ (w.loadReferences settings raw root).visits) :
    (v.target == root) = false := by
  obtain ⟨n, hn⟩ := w.exists_loadReferences_eq_after settings raw
  rw [hn root] at hv
  have h := Loading.after_invariant w settings root raw n
  exact h.distinct_targets.1 _ (List.mem_append_left _ (List.mem_map_of_mem hv))

/-- A worklist that runs empty visits the same locations for a URL with a fragment exactly if no
reference that is seen leads to the URL itself. -/
theorem visits_withFragment_iff (hu : (Location.url u).IsBare) {n : Nat}
    (hended : (Loading.after w settings (.url (u.withFragment f)) raw n).queue = [])
    (hn : n ≤ Loading.budget) :
    (w.loadReferences settings raw (.url (u.withFragment f))).visits =
        (w.loadReferences settings raw (.url u)).visits ↔
      ¬ w.CitesRoot settings raw (.url u) := by
  refine ⟨fun hvisits => ?_, fun h => (loaded_twin hu h).visits⟩
  have hafter := loadReferences_eq_after hended hn
  have hinvariant := Loading.after_invariant w settings (.url (u.withFragment f)) raw n
  rw [← hafter] at hended hinvariant
  -- for the fragment nothing that is cited is the URL: else it would have been visited
  have hother : ∀ d ∈ (w.loadReferences settings raw (.url (u.withFragment f))).documents
      (.url (u.withFragment f)) raw, ∀ target, Reference.Cites d.1 d.2 target →
        Location.IsOther (u.withFragment f) u target := by
    intro d hd target hcited
    have hleads := leadsBare_of_mem_documents (hu.leadsBare.withFragment f) hd
    have hbare := (hleads.isBare_of_cites hcited).beq_withFragment u f
    refine ⟨hbare, ?_⟩
    obtain ⟨visit, hvisit, htarget⟩ :=
      List.mem_map.1 (hinvariant.cited hended hd hcited hbare)
    rw [hvisits] at hvisit
    have hspelling := Loading.spelling_beq
      (w.loadReferences settings raw (.url (u.withFragment f))) target
    rw [← htarget] at hspelling
    have hne := visits_ne_root hvisit
    rw [Bool.eq_false_iff] at hne ⊢
    exact fun heq => hne (BEq.trans hspelling heq)
  -- so the runs are alike, the other way round
  have htwin := loadReferences_twin (u.agree_withFragment f).symm hother
  rintro ⟨d, hd, target, hcited, heq⟩
  have hne : (target == .url u) = false := by
    rcases List.mem_cons.1 hd with rfl | hd
    · exact (hother _ List.mem_cons_self target ((u.agree_withFragment f).cites hcited)).ne'
    · rw [htwin.store] at hd
      exact (hother d (List.mem_cons_of_mem _ hd) target hcited).ne'
  rw [heq] at hne
  cases hne

/-! ## References to the root document -/

/-- A reference leads to the root document by its location: one that is seen in a document that was
looked at, or one that inlining gets to. -/
def NamesRoot (w : World) (settings : FetchSettings) (raw : Json) (root : Location) : Prop :=
  w.CitesRoot settings raw root ∨
    ∃ target, (w.sources settings raw root).Follows target ∧ (target == root) = true

/-- The document behind the URL refers to itself by the URL. -/
def NamesItself (w : World) (settings : FetchSettings) (u : Url) : Prop :=
  ∃ text raw v, w.fetchUrl settings u = .ok text ∧ Parse.root (.text text) = .ok raw ∧
    Rules.version raw = .ok v ∧ w.NamesRoot settings raw (.url u)

/-- Nothing leads to the root document if no document that was looked at holds a reference to it. -/
theorem not_namesRoot_of_holds
    (h : ∀ d ∈ (w.loadReferences settings raw root).documents root raw, ∀ v r target,
      d.2.Holds v → v.reference? = some r → Reference.IsExternal r →
        d.1.join (Reference.document r) = .ok target → (target == root) = false) :
    ¬ w.NamesRoot settings raw root := by
  rintro (⟨d, hd, target, ⟨site, hsite, hx, hjoin⟩, heq⟩ |
    ⟨target, ⟨p, r, hmet, hr, hx, hjoin⟩, heq⟩)
  · obtain ⟨v, hsees, hr⟩ := Reference.exists_sees_of_site hsite
    have hne := h d hd v site.reference target hsees.holds hr hx hjoin
    rw [heq] at hne
    cases hne
  · obtain ⟨d, hd, hbase, hholds⟩ := hmet.stands (Sources.stands_start _)
    have hne := h d hd p.value r target hholds hr hx (hbase ▸ hjoin)
    rw [heq] at hne
    cases hne

/-- Without a reference to the root document inlining tells the same locations apart in both
runs. -/
theorem sources_twin (hu : (Location.url u).IsBare) (h : ¬ w.NamesRoot settings raw (.url u)) :
    Sources.Twin u (u.withFragment f) (w.sources settings raw (.url u))
      (w.sources settings raw (.url (u.withFragment f))) where
  agree := u.agree_withFragment f
  root := rfl
  store := (loaded_twin hu (not_or.1 h).1).store
  location := rfl
  location' := rfl
  stored d hd := by
    obtain ⟨hreached, hne⟩ := stored_reaches hd
    exact ⟨hne, (hreached.isBare hu.leadsBare).beq_withFragment u f⟩
  followed target hfollowed := by
    refine ⟨Bool.eq_false_iff.2 fun heq => h (Or.inr ⟨target, hfollowed, heq⟩), ?_⟩
    obtain ⟨p, r, hmet, -, -, hjoin⟩ := hfollowed
    obtain ⟨d, hd, hbase, -⟩ := hmet.stands (Sources.stands_start _)
    have hleads := leadsBare_of_mem_documents hu.leadsBare hd
    rw [hbase] at hleads
    exact (hleads _ target (Reference.sign_not_mem_document r) hjoin).beq_withFragment u f

end World

/-! ## Parsing -/

/-- The same result, but for the URL that references could not be resolved against. -/
structure Parse.Alike (u u' : Url) (p p' : Parse) : Prop where
  document : p'.document = p.document
  diagnostics : List.Forall₂ (Diagnostic.Alike u u') p.diagnostics p'.diagnostics
  visits : p'.visits = p.visits
  judged : p'.judged = p.judged

namespace Parse

theorem Alike.refl (u u' : Url) (p : Parse) : Alike u u' p p :=
  ⟨rfl, Diagnostic.alike_refl u u' p.diagnostics, rfl, rfl⟩

theorem judge_alike {u' : Url} {found found' : List Diagnostic}
    (h : List.Forall₂ (Diagnostic.Alike u u') found found') (options : ParseOptions) (v : Version)
    (doc : Json) (visits : List Visit) :
    Alike u u' (judge options v doc found visits) (judge options v doc found' visits) := by
  have hall : List.Forall₂ (Diagnostic.Alike u u') (judge options v doc found visits).diagnostics
      (judge options v doc found' visits).diagnostics := by
    have hrest := Diagnostic.alike_refl u u'
    exact List.rel_append (List.rel_append (List.rel_append h (hrest _)) (hrest _)) (hrest _)
  refine ⟨?_, hall, rfl, rfl⟩
  have herror := Diagnostic.any_isError_alike hall
  simp only [judge] at herror ⊢
  rw [herror]

/-- A document that does not refer to itself by its URL parses alike with and without a
fragment. -/
theorem run_withFragment (options : ParseOptions) {input : Input} (hu : (Location.url u).IsBare)
    (h : ∀ raw v, root input = .ok raw → Rules.version raw = .ok v →
      ¬ w.NamesRoot settings raw (.url u)) :
    Alike u (u.withFragment f) (run w settings options (.url u) input)
      (run w settings options (.url (u.withFragment f)) input) := by
  cases hroot : root input with
  | error reason =>
    have hrun : ∀ l, run w settings options l input =
        refused (.error .uncaughtException reason []) := fun l => by rw [run, hroot]
    rw [hrun, hrun]
    exact Alike.refl u _ _
  | ok raw =>
    cases hversion : Rules.version raw with
    | error d =>
      have hrun : ∀ l, run w settings options l input = refused d := fun l => by
        simp only [run, hroot, hversion]
      rw [hrun, hrun]
      exact Alike.refl u _ _
    | ok v =>
      have hself := h raw v hroot hversion
      have hloaded := World.loaded_twin (f := f) hu (not_or.1 hself).1
      have hinlined := (World.sources_twin (f := f) hu hself).inline
      rw [run_eq_judge w settings options _ hroot hversion,
        run_eq_judge w settings options _ hroot hversion, ← hinlined, hloaded.visits]
      refine judge_alike (List.rel_append hloaded.findings ?_) options v _ _
      exact Diagnostic.alike_refl u _ _

end Parse

namespace Source

/-- The same outcome, but for the URL in what is told. -/
inductive Alike (u u' : Url) : Except FetchError Parse → Except FetchError Parse → Prop
  | parsed {p p' : Parse} (h : p.Alike u u' p') : Alike u u' (.ok p) (.ok p')
  | failed (e : FetchError) : Alike u u' (.error e) (.error e)
  | request {e e' : HttpError}
      (h : HttpError.Alike (World.requestUrl u).write (World.requestUrl u').write e e') :
      Alike u u' (.error (.http e)) (.error (.http e'))

/-- A document that does not refer to itself by its URL parses alike whatever fragment the URL has:
the same is fetched, and what comes of it differs in the URL in messages alone. One that is cited by
its URL does not, if its worklist runs empty: it is fetched once more for the fragment. -/
theorem parse_withFragment (w : World) (settings : FetchSettings) (options : ParseOptions)
    {address address' : String} (hu : Url.parse address = .ok u)
    (hscheme : u.scheme = "http" ∨ u.scheme = "https") (hnone : u.fragment = none)
    (hu' : Url.parse address' = .ok (u.withFragment f)) :
    (¬ w.NamesItself settings u →
      Alike u (u.withFragment f) ((url address).parse w settings options)
        ((url address').parse w settings options)) ∧
    ∀ text raw v, w.fetchUrl settings u = .ok text → Parse.root (.text text) = .ok raw →
      Rules.version raw = .ok v → w.CitesRoot settings raw (.url u) →
      ∀ n ≤ Loading.budget,
        (Loading.after w settings (.url (u.withFragment f)) raw n).queue = [] →
        ¬ Alike u (u.withFragment f) ((url address).parse w settings options)
          ((url address').parse w settings options) := by
  have hfile : (u.scheme == "file") = false := by
    rcases hscheme with hscheme | hscheme <;> rw [hscheme] <;> rfl
  have hlocation : u.location = .url u := by simp [Url.location, hfile]
  have hlocation' : (u.withFragment f).location = .url (u.withFragment f) := by
    have hfile' : ((u.withFragment f).scheme == "file") = false := hfile
    simp [Url.location, hfile']
  have hbare : (Location.url u).IsBare := by
    intro v hv
    obtain rfl := Location.url.inj hv
    exact ⟨(Url.parse_isReadFrom hu).bare, hnone⟩
  simp only [parse, read, hu, hu', hlocation, hlocation']
  rcases w.fetchUrl_withFragment settings f hscheme with hsame | ⟨e, e', he, he', halike⟩
  · rw [hsame]
    cases hfetch : w.fetchUrl settings u with
    | error e => exact ⟨fun _ => .failed e, fun _ _ _ htext => by cases htext⟩
    | ok text =>
      refine ⟨fun hself => .parsed (Parse.run_withFragment options hbare ?_), ?_⟩
      · intro raw v hroot hversion hnames
        exact hself ⟨text, raw, v, hfetch, hroot, hversion, hnames⟩
      · intro text' raw v htext hroot hversion hcites n hn hended
        obtain rfl := Except.ok.inj htext
        rintro ⟨-, -, hsame, -⟩
        have hvisits :
            (Parse.run w settings options (.url (u.withFragment f)) (.text text)).visits =
              (Parse.run w settings options (.url u) (.text text)).visits := hsame
        rw [Parse.run_eq_judge w settings options _ hroot hversion,
          Parse.run_eq_judge w settings options _ hroot hversion] at hvisits
        exact (World.visits_withFragment_iff hbare hended hn).1 hvisits hcites
  · rw [he, he']
    exact ⟨fun _ => .request halike, fun _ _ _ htext => by cases htext⟩

theorem eq_ok_of_toOption {ε α : Type} {x : Except ε α} {a : α} (h : x.toOption = some a) :
    x = .ok a := by
  cases x with
  | error e => cases h
  | ok b => exact congrArg Except.ok (Option.some.inj h)

/-- The location of a page. -/
def pageUrl : Url := ⟨"http", "", some "[::1]", none, "/a.json", false, none, none⟩

theorem parse_pageUrl : Url.parse "http://[::1]/a.json" = .ok pageUrl := by decide +kernel

theorem parse_pageUrl_withFragment :
    Url.parse "http://[::1]/a.json#x" = .ok (pageUrl.withFragment "x") := by decide +kernel

/-- A document that refers to a value of its own by a fragment alone, and to another document, which
refers to one that is not there. -/
def neighbours : World :=
  let a := "\x7b\"asyncapi\":\"3.0.0\",\"own\":\x7b\"$ref\":\"#/asyncapi\"\x7d," ++
    "\"other\":\x7b\"$ref\":\"b.json\"\x7d\x7d"
  let b := "[\x7b\"$ref\":\"missing.json\"\x7d]"
  ⟨[], [], .serving [("http://[::1]/a.json", ⟨200, Utf8.encode a, none, false, false⟩),
    ("http://[::1]/b.json", ⟨200, Utf8.encode b, none, false, false⟩)]⟩

/-- A document that refers to a part of itself by its file name. -/
def ownName : World :=
  let text := "\x7b\"asyncapi\":\"3.0.0\",\"info\":\x7b\"title\":\"t\",\"version\":\"1\"\x7d," ++
    "\"node\":\x7b\"next\":\x7b\"$ref\":\"a.json#/node\"\x7d\x7d\x7d"
  ⟨[], [], .serving [("http://[::1]/a.json", ⟨200, Utf8.encode text, none, false, false⟩)]⟩

theorem parse_withFragment_pages :
    Alike pageUrl (pageUrl.withFragment "x")
      ((url "http://[::1]/a.json").parse neighbours .default .default)
      ((url "http://[::1]/a.json#x").parse neighbours .default .default) ∧
    ¬ Alike pageUrl (pageUrl.withFragment "x")
      ((url "http://[::1]/a.json").parse ownName .default .default)
      ((url "http://[::1]/a.json#x").parse ownName .default .default) := by
  constructor
  · have hcheck : (((neighbours.fetchUrl .default pageUrl).toOption.bind fun text =>
        (Parse.root (.text text)).toOption).all fun raw =>
          ((neighbours.loadReferences .default raw (.url pageUrl)).documents (.url pageUrl) raw).all
            fun d => d.2.parts.all fun v => v.reference?.all fun r =>
              (Reference.document r).isEmpty || (d.1.join (Reference.document r)).toOption.all
                fun target => !(target == .url pageUrl)) = true := by decide +kernel
    refine (parse_withFragment neighbours .default .default parse_pageUrl (.inl rfl) rfl
      parse_pageUrl_withFragment).1 ?_
    rintro ⟨text, raw, -, htext, hroot, -, hnames⟩
    rw [htext] at hcheck
    simp only [Except.toOption, Option.bind_some, hroot, Option.all_some] at hcheck
    refine World.not_namesRoot_of_holds (fun d hd v r target hholds hr hx hjoin => ?_) hnames
    have hd' := List.all_eq_true.1 (List.all_eq_true.1 hcheck d hd) v hholds.mem_parts
    have hexternal : (Reference.document r).isEmpty = false := hx
    rw [hr, Option.all_some, hexternal, Bool.false_or, hjoin] at hd'
    simpa [Except.toOption] using hd'
  · have hcheck : ((ownName.fetchUrl .default pageUrl).toOption.any fun text =>
        (Parse.root (.text text)).toOption.any fun raw => (Rules.version raw).isOk &&
          (Reference.targets (.url pageUrl) raw).any (· == .url pageUrl) &&
          (Loading.after ownName .default (.url (pageUrl.withFragment "x")) raw 1).queue.isEmpty) =
            true := by decide +kernel
    obtain ⟨text, htext, hcheck⟩ := (Option.any_eq_true _ _).1 hcheck
    obtain ⟨raw, hroot, hcheck⟩ := (Option.any_eq_true _ _).1 hcheck
    simp only [Bool.and_eq_true, List.any_eq_true, List.isEmpty_iff] at hcheck
    obtain ⟨⟨hversion, target, htarget, heq⟩, hended⟩ := hcheck
    cases hv : Rules.version raw with
    | error d =>
      rw [hv] at hversion
      cases hversion
    | ok v =>
      refine (parse_withFragment ownName .default .default parse_pageUrl (.inl rfl) rfl
        parse_pageUrl_withFragment).2 text raw v ?_ ?_ hv ?_ 1 (by decide +kernel) hended
      · exact eq_ok_of_toOption htext
      · exact eq_ok_of_toOption hroot
      · exact ⟨_, List.mem_cons_self, target, Reference.mem_targets_iff.1 htarget, heq⟩

/-- The document comes out of its URL. From the URL with a fragment it is loaded once more, and its
circle is told of as one of another document. -/
theorem ownName_not_alike :
    (∃ p, (url "http://[::1]/a.json").parse ownName .default .default = .ok p ∧
      p.document.isSome = true ∧ p.diagnostics = [] ∧ p.visits = []) ∧
    (∃ p, (url "http://[::1]/a.json#x").parse ownName .default .default = .ok p ∧
      p.document.isNone = true ∧ p.visits.map (·.target.write) = ["http://[::1]/a.json"] ∧
      p.diagnostics.map (·.message) =
        ["circular reference 'a.json#/node' inside a referenced document"]) ∧
    ¬ Alike pageUrl (pageUrl.withFragment "x")
      ((url "http://[::1]/a.json").parse ownName .default .default)
      ((url "http://[::1]/a.json#x").parse ownName .default .default) := by
  have hbare : ((url "http://[::1]/a.json").parse ownName .default .default).toOption.any (fun p =>
      p.document.isSome && p.diagnostics.isEmpty && p.visits.isEmpty) = true := by decide +kernel
  have hfragment : ((url "http://[::1]/a.json#x").parse ownName .default .default).toOption.any
      (fun p => p.document.isNone && p.visits.map (·.target.write) == ["http://[::1]/a.json"] &&
        p.diagnostics.map (·.message) ==
          ["circular reference 'a.json#/node' inside a referenced document"]) = true := by
    decide +kernel
  cases hp : (url "http://[::1]/a.json").parse ownName .default .default with
  | error e =>
    rw [hp] at hbare
    cases hbare
  | ok p =>
    cases hp' : (url "http://[::1]/a.json#x").parse ownName .default .default with
    | error e =>
      rw [hp'] at hfragment
      cases hfragment
    | ok p' =>
      rw [hp] at hbare
      rw [hp'] at hfragment
      simp only [Except.toOption, Option.any_some, Bool.and_eq_true, List.isEmpty_iff,
        beq_iff_eq] at hbare hfragment
      obtain ⟨⟨hsome, hnone⟩, hvisits⟩ := hbare
      obtain ⟨⟨hnone', hvisits'⟩, hmessages⟩ := hfragment
      refine ⟨⟨p, rfl, hsome, hnone, hvisits⟩, ⟨p', rfl, hnone', hvisits', hmessages⟩, ?_⟩
      rintro (⟨-, -, hsame, -⟩ | _ | _)
      rw [hsame, hvisits] at hvisits'
      cases hvisits'

end Source
end MessageContract
