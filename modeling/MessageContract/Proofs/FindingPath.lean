import MessageContract.Proofs.Outcome
import MessageContract.Proofs.Reference.Report

/-!
# The paths of findings about references

A finding about a reference names a document and has a path. What loading finds has the path of the
reference in this document, because the sites of each document have their places in it
(`Reference.exists_at?_of_site`). What inlining finds has the path of the reference in what comes
out. Up to the last reference that is followed this is a path through other documents, and only what
comes behind it is a path in the document of the finding (`Sources.Comes.last`). So the path of a
finding leads to its reference in the document that it names, unless inlining comes to the reference
through one that does not stand where the value stands that it names (`Sources.Displaced`,
`Parse.invalidRef_paths`).
-/

namespace MessageContract

/-- The names and indices of the pointer of a target. -/
def Target.path (t : Target) : List String :=
  ((Pointer.segments? t.pointer.toList).getD []).map String.ofList

theorem Json.at?_of_pointer? {v w : Json} {t : Target} (h : v.pointer? t.pointer = some w) :
    v.at? t.path = some w := by
  obtain ⟨segments, hsegments, hw⟩ := Option.bind_eq_some_iff.1 h
  rw [Target.path, hsegments, Json.at?]
  simpa [Function.comp_def] using hw

namespace Reference

/-- Every site of a document with distinct names is where its path leads. -/
theorem exists_at?_of_site {d : Json} (hd : d.HasDistinctNames) {path : List String} {site : Site}
    (h : site ∈ sitesAt path d) :
    ∃ rest holder, site.path = path ++ rest ∧ d.at? rest = some holder ∧
      holder.reference? = some site.reference := by
  induction d using Json.children_induction generalizing path with
  | _ d ih =>
    cases hr : d.reference? with
    | some r =>
      rw [sitesAt_of_reference hr, List.mem_singleton] at h
      subst h
      exact ⟨[], d, (List.append_nil path).symm, rfl, hr⟩
    | none =>
      cases d with
      | obj ms =>
        rw [sitesAt, hr] at h
        obtain ⟨m, hm, hsite⟩ := exists_of_mem_sitesOfMembers h
        obtain ⟨rest, holder, hpath, hat, hholder⟩ :=
          ih m.2 (List.mem_map.2 ⟨m, hm, rfl⟩) (hd.member hm) hsite
        refine ⟨m.1 :: rest, holder, ?_, ?_, hholder⟩
        · rw [hpath, List.append_assoc, List.singleton_append]
        · rwa [Json.at?_member hd.nodup hm]
      | arr items =>
        rw [sitesAt] at h
        obtain ⟨i, w, hw, hsite⟩ := exists_of_mem_sitesOfItems h
        have hmem : w ∈ (Json.arr items).children := List.mem_of_getElem? hw
        obtain ⟨rest, holder, hpath, hat, hholder⟩ := ih w hmem (hd.child hmem) hsite
        refine ⟨toString i :: rest, holder, ?_, ?_, hholder⟩
        · rw [hpath, Nat.zero_add, List.append_assoc, List.singleton_append]
        · rwa [Json.at?_item hw]
      | _ => simp [sitesAt] at h

end Reference

/-! ## What findings are about -/

section

variable (w : World) (settings : FetchSettings) (s : Sources)

/-- What may be told of a reference in the document at `base`. -/
inductive Accuses (base : Location) (r : String) : String → Prop
  /-- It leads to no location. -/
  | nowhere {e : Location.JoinError} (external : Reference.IsExternal r)
      (join : base.join (Reference.document r) = .error e) : Accuses base r e.message
  /-- The document that it leads to is not there. -/
  | missing {target : Location} {reason : String} (external : Reference.IsExternal r)
      (join : base.join (Reference.document r) = .ok target)
      (told : Loading.tree w settings target = .error reason ∨ reason = "too many documents") :
      Accuses base r ("cannot load referenced document " ++ target.write ++ ": " ++ reason)
  /-- Inlining refuses it. -/
  | refused {stack : List Target} {message : String}
      (met : s.encounter stack base r = .refused message) : Accuses base r message

/-- A finding names the document, and tells of the reference that stands at the place in it. -/
structure IsAbout (f : Diagnostic) (d : Location × Json) (place : List String) : Prop where
  mem : d ∈ s.documents
  source : f.source = if d.1 == s.location then none else some d.1.write
  reference : ∃ holder r, d.2.at? place = some holder ∧ holder.reference? = some r ∧
    Accuses w settings s d.1 r f.message

end

namespace Sources

variable (s : Sources)

/-- Inlining comes along the first path to what stands in a document at the second: up to a last
reference, and on from the value that it names, which stands elsewhere. -/
inductive Displaced (d : Location × Json) : List String → List String → Prop
  | mk {front behind : List String} {p : Point} {r : String} {t : Target} {v : Json}
      (comes : s.Comes s.start front p) (reference : p.value.reference? = some r)
      (target : s.target? p.base r = some (t, v)) (location : t.location = d.1)
      (elsewhere : front ≠ t.path) : Displaced d (front ++ behind) (t.path ++ behind)

variable {s}

theorem Displaced.ne {d : Location × Json} {path place : List String}
    (h : s.Displaced d path place) : path ≠ place := by
  obtain ⟨_, _, _, _, hne⟩ := h
  exact fun heq => hne (List.append_cancel_right heq)

/-- A point is come to in the value at hand, or in one that a last reference names. By induction on
the way. -/
theorem Comes.last (hs : ∀ d ∈ s.documents, d.2.HasDistinctNames) {p q : Point}
    {path : List String} (h : s.Comes p path q) (hp : p.value.HasDistinctNames) :
    (q.base = p.base ∧ p.value.at? path = some q.value) ∨
    ∃ front behind p' r t v, path = front ++ behind ∧ s.Comes p front p' ∧
      p'.value.reference? = some r ∧ s.target? p'.base r = some (t, v) ∧ q.base = t.location ∧
      v.at? behind = some q.value := by
  induction h with
  | here p => exact Or.inl ⟨rfl, rfl⟩
  | @member p q ms m path hv hr hm _ ih =>
    rw [hv] at hp
    rcases ih (hp.member hm) with ⟨hbase, hat⟩ |
      ⟨front, behind, p', r, t, v, rfl, hcomes, hreference, htarget, hbase, hat⟩
    · refine Or.inl ⟨hbase, ?_⟩
      rwa [hv, Json.at?_member hp.nodup hm]
    · exact Or.inr ⟨m.1 :: front, behind, p', r, t, v, rfl, .member hv hr hm hcomes, hreference,
        htarget, hbase, hat⟩
  | @item p q items i u path hv hi _ ih =>
    rw [hv] at hp
    rcases ih (hp.child (List.mem_of_getElem? hi)) with ⟨hbase, hat⟩ |
      ⟨front, behind, p', r, t, v, rfl, hcomes, hreference, htarget, hbase, hat⟩
    · refine Or.inl ⟨hbase, ?_⟩
      rwa [hv, Json.at?_item hi]
    · exact Or.inr ⟨toString i :: front, behind, p', r, t, v, rfl, .item hv hi hcomes, hreference,
        htarget, hbase, hat⟩
  | @enter p p'' q path he _ ih =>
    have he' := he
    obtain ⟨hr, ht, _⟩ := he
    obtain ⟨d, hd, _, hw⟩ := target?_mem ht
    rcases ih ((hs d hd).holds (Json.holds_of_pointer hw)) with ⟨hbase, hat⟩ |
      ⟨front, behind, p', r, t, v, rfl, hcomes, hreference, htarget, hbase, hat⟩
    · exact Or.inr ⟨[], path, p, _, _, _, rfl, .here p, hr, ht, hbase, hat⟩
    · exact Or.inr ⟨front, behind, p', r, t, v, rfl, .enter he' hcomes, hreference, htarget, hbase,
        hat⟩

end Sources

/-! ## What loading finds -/

section

variable {w : World} {settings : FetchSettings} {raw : Json} {root : Location}

/-- A location was asked for at a place of a document that was looked at. -/
theorem isAbout_failure {d : Location × Json}
    (hd : d ∈ (w.sources settings raw root).documents) (hdistinct : d.2.HasDistinctNames)
    {p : Pending} (hp : Loading.IsAsked d.1 (Reference.sites d.2) p) {reason : String}
    (hreason : Loading.tree w settings p.target = .error reason ∨ reason = "too many documents") :
    IsAbout w settings (w.sources settings raw root) (Loading.failure root p reason) d
      (Loading.failure root p reason).path := by
  obtain ⟨hreferrer, site, hsite, hpath, hexternal, hjoin⟩ := hp
  obtain ⟨rest, holder, hrest, hat, hholder⟩ := Reference.exists_at?_of_site hdistinct hsite
  have hplace : p.path = rest := by rw [← hpath, hrest, List.nil_append]
  refine ⟨hd, ?_, holder, site.reference, ?_, hholder, .missing hexternal hjoin hreason⟩
  · rw [← hreferrer]
    rfl
  · rw [← hat, ← hplace]
    rfl

theorem isAbout_fault {d : Location × Json}
    (hd : d ∈ (w.sources settings raw root).documents) (hdistinct : d.2.HasDistinctNames)
    {f : Diagnostic} (hf : f ∈ Reference.faults root d.1 d.2) :
    IsAbout w settings (w.sources settings raw root) f d f.path := by
  obtain ⟨site, hsite, hfault⟩ := List.mem_filterMap.1 hf
  obtain ⟨rest, holder, hrest, hat, hholder⟩ := Reference.exists_at?_of_site hdistinct hsite
  unfold Reference.fault? at hfault
  split at hfault
  · cases hfault
  · next hempty =>
    split at hfault
    · next e hjoin =>
      obtain rfl := Option.some.inj hfault
      have hexternal : Reference.IsExternal site.reference := by
        simpa [Reference.IsExternal] using hempty
      refine ⟨hd, rfl, holder, site.reference, ?_, hholder, .nowhere hexternal hjoin⟩
      rw [← hat, ← List.nil_append rest, ← hrest]
      rfl
    · cases hfault

/-- What loading finds has the path of the reference that it is about. -/
theorem World.exists_isAbout_of_load
    (hs : ∀ d ∈ (w.sources settings raw root).documents, d.2.HasDistinctNames) {f : Diagnostic}
    (hf : f ∈ (w.loadReferences settings raw root).findings) :
    ∃ d, IsAbout w settings (w.sources settings raw root) f d f.path := by
  obtain ⟨t, h, heq⟩ := w.exists_loadReferences_eq settings raw root
  have hdocuments : ∀ d ∈ t.documents root raw, d ∈ (w.sources settings raw root).documents := by
    intro d hd
    rwa [Sources.documents, World.sources, heq]
  have hfailed : ∀ p reason, t.IsNoted root raw p →
      (Loading.tree w settings p.target = .error reason ∨ reason = "too many documents") →
      ∃ d, IsAbout w settings (w.sources settings raw root) (Loading.failure root p reason) d
        (Loading.failure root p reason).path := by
    rintro p reason ⟨d, hd, hasked⟩ hreason
    exact ⟨d, isAbout_failure (hdocuments d hd) (hs d (hdocuments d hd)) hasked hreason⟩
  rw [heq] at hf
  obtain ⟨missed, _, hmissed, hperm⟩ := h.told
  rcases List.mem_append.1 hf with hf | hf
  · rcases List.mem_append.1 (hperm.mem_iff.1 hf) with hf | hf
    · obtain ⟨m, hm, rfl⟩ := List.mem_map.1 hf
      exact hfailed m.1 m.2 (hmissed m hm).1 (Or.inl (hmissed m hm).2)
    · obtain ⟨d, hd, hf⟩ := List.mem_flatMap.1 hf
      exact ⟨d, isAbout_fault (hdocuments d hd) (hs d (hdocuments d hd)) hf⟩
  · obtain ⟨p, hp, rfl⟩ := List.mem_map.1 hf
    exact hfailed p _ (h.queue p hp) (Or.inr rfl)

end

/-! ## What inlining finds -/

/-- What inlining finds has the path of the reference that it is about, or is displaced. -/
theorem Sources.exists_isAbout_of_inline (w : World) (settings : FetchSettings) {s : Sources}
    (hs : ∀ d ∈ s.documents, d.2.HasDistinctNames) {f : Diagnostic}
    (hf : f ∈ s.inline.findings) :
    ∃ d place, IsAbout w settings s f d place ∧ (f.path = place ∨ s.Displaced d f.path place) := by
  obtain ⟨xs, hxs⟩ := exists_reports_inline s hs
  rw [hxs.findings_eq] at hf
  obtain ⟨x, hx, rfl⟩ := List.mem_map.1 hf
  obtain ⟨hcomes, r, hr, hmet⟩ := (hxs.mem_iff x).1 hx
  -- the finding is about the place of a document at which the object with the reference stands
  have habout : ∀ d ∈ s.documents, ∀ place, x.point.base = d.1 →
      d.2.at? place = some x.point.value → IsAbout w settings s (x.told s) d place := by
    intro d hd place hbase hat
    refine ⟨hd, ?_, x.point.value, r, hat, hr, .refused (hbase ▸ hmet)⟩
    rw [← hbase]
    rfl
  rcases hcomes.last hs (hs _ List.mem_cons_self) with ⟨hbase, hat⟩ |
    ⟨front, behind, p, r', t, v, hpath, hfront, hreference, htarget, hbase, hat⟩
  · exact ⟨(s.location, s.root), x.path, habout _ List.mem_cons_self _ hbase hat, Or.inl rfl⟩
  · obtain ⟨d, hd, hlocation, hv⟩ := target?_mem htarget
    refine ⟨d, t.path ++ behind, habout d hd _ (hbase.trans hlocation.symm) ?_, ?_⟩
    · rw [Json.at?_append, Json.at?_of_pointer? hv, Option.bind_some, hat]
    · have htold : (x.told s).path = front ++ behind := hpath
      rw [htold]
      by_cases hsame : front = t.path
      · exact Or.inl (by rw [hsame])
      · exact Or.inr (.mk hfront hreference htarget hlocation.symm hsame)

namespace Parse

/-- The findings about references are those of loading and of inlining. -/
theorem exists_of_invalidRef {w : World} {settings : FetchSettings} {options : ParseOptions}
    {location : Location} {input : Input} {f : Diagnostic}
    (hf : f ∈ (run w settings options location input).diagnostics) (hcode : f.code = .invalidRef) :
    ∃ raw, root input = .ok raw ∧ (f ∈ (w.loadReferences settings raw location).findings ∨
      f ∈ (w.sources settings raw location).inline.findings) := by
  cases hroot : root input with
  | error reason =>
    rw [run, hroot] at hf
    rw [List.mem_singleton.1 hf] at hcode
    cases hcode
  | ok raw =>
    cases hversion : Rules.version raw with
    | error d =>
      simp only [run, hroot, hversion] at hf
      rw [List.mem_singleton.1 hf] at hcode
      exact absurd hcode (Rules.version_isRaised hversion).own
    | ok v =>
      rw [run_eq_judge w settings options location hroot hversion] at hf
      rcases mem_judge_diagnostics hf with hf | hraised | ⟨_, hf⟩
      · exact ⟨raw, rfl, List.mem_append.1 hf⟩
      · exact absurd hcode hraised.own
      · obtain ⟨code, message, path, hother, rfl⟩ := Rules.recommended_findings _ f hf
        exact absurd hcode hother.2

/-- A finding about a reference has the path of the reference in the document that it names, unless
inlining comes to the reference behind one that it follows to somewhere else. -/
theorem invalidRef_paths (w : World) (settings : FetchSettings) (options : ParseOptions)
    (location : Location) {input : Input} (hinput : ∀ v, input = .json v → v.HasDistinctNames)
    {f : Diagnostic} (hf : f ∈ (run w settings options location input).diagnostics)
    (hcode : f.code = .invalidRef) :
    ∃ raw, root input = .ok raw ∧
      ((f ∈ (w.loadReferences settings raw location).findings ∧
        ∃ d, IsAbout w settings (w.sources settings raw location) f d f.path) ∨
      (f ∈ (w.sources settings raw location).inline.findings ∧
        ∃ d place, IsAbout w settings (w.sources settings raw location) f d place ∧
          (f.path = place ∨ (w.sources settings raw location).Displaced d f.path place))) := by
  obtain ⟨raw, hroot, hfound⟩ := exists_of_invalidRef hf hcode
  have hs : ∀ d ∈ (w.sources settings raw location).documents, d.2.HasDistinctNames := by
    intro d hd
    rcases List.mem_cons.1 hd with rfl | hd
    · exact root_hasDistinctNames hinput hroot
    · exact World.store_hasDistinctNames hd
  refine ⟨raw, hroot, ?_⟩
  rcases hfound with hf | hf
  · exact Or.inl ⟨hf, World.exists_isAbout_of_load hs hf⟩
  · exact Or.inr ⟨hf, Sources.exists_isAbout_of_inline w settings hs hf⟩

/-- A machine with a file in which a reference leads nowhere. -/
def broken : World :=
  ⟨[], [([Utf8.encode "tree.json"], .file (Utf8.encode
    "\x7b\"node\": \x7b\"next\": \x7b\"$ref\": \"#/gone\"\x7d\x7d\x7d"))], .unreachable⟩

/-- A document that comes to this reference over one of its own. -/
def brokenRoot : Json :=
  .obj [("asyncapi", .str "3.0.0"),
    ("info", .obj [("title", .str "t"), ("version", .str "1")]),
    ("a", .obj [("$ref", .str "/tree.json#/node")])]

/-- What is found: it names the file, with a path through the document. -/
def brokenFinding : Diagnostic :=
  ⟨.invalidRef, "'#/gone' does not point to a value", .error, ["a", "next"], some "/tree.json"⟩

theorem run_broken :
    (run broken .default .default .inline (.json brokenRoot)).diagnostics = [brokenFinding] := by
  decide +kernel

theorem invalidRef_paths_broken :
    (∀ v, Input.json brokenRoot = .json v → v.HasDistinctNames) ∧
    brokenFinding ∈ (run broken .default .default .inline (.json brokenRoot)).diagnostics ∧
    brokenFinding.code = .invalidRef ∧
    ∃ d place, IsAbout broken .default (broken.sources .default brokenRoot .inline) brokenFinding d
      place ∧ (brokenFinding.path = place ∨
        (broken.sources .default brokenRoot .inline).Displaced d brokenFinding.path place) := by
  have hdistinct : ∀ v, Input.json brokenRoot = .json v → v.HasDistinctNames := by
    intro v hv
    rw [← Input.json.inj hv]
    exact Json.hasDistinctNames_of_parts (by decide +kernel)
  have hmem : brokenFinding ∈
      (run broken .default .default .inline (.json brokenRoot)).diagnostics := by
    rw [run_broken]
    exact List.mem_singleton_self _
  obtain ⟨raw, hraw, hpaths⟩ :=
    invalidRef_paths broken .default .default .inline hdistinct hmem rfl
  have hroot : root (.json brokenRoot) = .ok brokenRoot := rfl
  obtain rfl := Except.ok.inj (hroot.symm.trans hraw)
  refine ⟨hdistinct, hmem, rfl, ?_⟩
  rcases hpaths with ⟨_, d, habout⟩ | ⟨_, hplace⟩
  · exact ⟨d, _, habout, Or.inl rfl⟩
  · exact hplace

/-- In the file that it names, the path of the finding leads to nothing; the reference stands
elsewhere. -/
theorem not_leads_broken :
    (run broken .default .default .inline (.json brokenRoot)).diagnostics = [brokenFinding] ∧
    (Location.file (.ofString "/tree.json")).write = "/tree.json" ∧
    ∃ v, Loading.tree broken .default (.file (.ofString "/tree.json")) = .ok v ∧
      v.at? brokenFinding.path = none ∧
      (v.at? ["node", "next"]).bind Json.reference? = some "#/gone" := by
  have hplaces : ((Loading.tree broken .default (.file (.ofString "/tree.json"))).toOption.map
      fun v => ((v.at? brokenFinding.path).isNone,
        (v.at? ["node", "next"]).bind Json.reference?)) = some (true, some "#/gone") := by
    decide +kernel
  refine ⟨run_broken, by decide +kernel, ?_⟩
  cases hv : Loading.tree broken .default (.file (.ofString "/tree.json")) with
  | error e =>
    rw [hv] at hplaces
    cases hplaces
  | ok v =>
    rw [hv] at hplaces
    obtain ⟨hpath, hplace⟩ := Prod.mk.inj (Option.some.inj hplaces)
    exact ⟨v, rfl, Option.isNone_iff_eq_none.1 hpath, hplace⟩

end Parse
end MessageContract
