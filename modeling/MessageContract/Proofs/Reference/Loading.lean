import Mathlib.Data.List.Perm.Basic
import Mathlib.Logic.Function.Iterate
import MessageContract.Proofs.Location
import MessageContract.Proofs.Reference.Nesting
import MessageContract.Reference.Loading

/-!
# The worklist of referenced documents

What is known of the worklist between two steps (`Loading.Invariant`): the locations that are seen
are the root document's, those visited and those that wait, each once; what is stored was visited
and loaded; every site of a document that was looked at leads to a seen location or is told. A run
is a number of steps, and gives up on what still waits after them (`run_eq`). So when loading ends
with nothing found, every reference that is seen from the root document or from a stored one leads
to a document that is there (`World.exists_document_of_site`).
-/

namespace MessageContract

namespace Reference

/-- What is found in the root document is told without its location. -/
theorem finding_root (l : Location) (path : List String) (message : String) :
    finding l l path message = .error .invalidRef message path := by
  rw [finding, if_pos (BEq.refl l)]
  rfl

/-- A site of a document leads to a location. -/
def Cites (base : Location) (document : Json) (target : Location) : Prop :=
  ∃ site ∈ sites document, IsExternal site.reference ∧
    base.join (Reference.document site.reference) = .ok target

/-- What is found at a site of the document at `base` whose reference leads nowhere. -/
def fault? (root base : Location) (site : Site) : Option Diagnostic :=
  if (document site.reference).isEmpty then none
  else
    match base.join (document site.reference) with
    | .error e => some (finding root base site.path e.message)
    | .ok _ => none

/-- What is found at the sites of a document. -/
def faults (root base : Location) (document : Json) : List Diagnostic :=
  (sites document).filterMap (fault? root base)

theorem fault?_isFinding {root base : Location} {site : Site} {f : Diagnostic}
    (h : fault? root base site = some f) : IsFinding root f := by
  unfold fault? at h
  split at h
  · cases h
  · split at h
    · next e _ => exact ⟨base, site.path, e.message, (Option.some.inj h).symm⟩
    · cases h

theorem faults_isFinding {root base : Location} {document : Json} {f : Diagnostic}
    (h : f ∈ faults root base document) : IsFinding root f := by
  obtain ⟨site, _, hf⟩ := List.mem_filterMap.1 h
  exact fault?_isFinding hf

/-- A site at which nothing is found leads to a location. -/
theorem exists_join_of_fault? {root base : Location} {site : Site}
    (h : fault? root base site = none) (hx : IsExternal site.reference) :
    ∃ target, base.join (document site.reference) = .ok target := by
  unfold fault? at h
  rw [if_neg (by rw [hx]; exact Bool.false_ne_true)] at h
  split at h
  · cases h
  · next target hjoin => exact ⟨target, hjoin⟩

end Reference

namespace Loading

variable {w : World} {settings : FetchSettings} {root base : Location} {raw : Json} {s : Loading}

/-- No two of the locations are one. -/
def Distinct (ls : List Location) : Prop := ls.Pairwise fun a b => (a == b) = false

theorem Distinct.nodup {ls : List Location} (h : Distinct ls) : ls.Nodup :=
  List.Pairwise.imp ne_of_beq_false h

/-! ## Noting -/

/-- The state after locations are added to it. -/
def extend (s : Loading) (added : List Pending) (found : List Diagnostic) : Loading :=
  { s with seen := (added.map (·.target)).reverse ++ s.seen, queue := s.queue ++ added,
           findings := s.findings ++ found }

/-- A location waits because a site of the document at `base` leads to it. -/
def IsAsked (base : Location) (sites : List Reference.Site) (p : Pending) : Prop :=
  p.referrer = base ∧ ∃ site ∈ sites, site.path = p.path ∧ Reference.IsExternal site.reference ∧
    base.join (Reference.document site.reference) = .ok p.target

/-- Noting a site tells what is found there, or adds the location if it is new. -/
theorem note_spec (root base : Location) (s : Loading) (site : Reference.Site) :
    ∃ added, note root base s site = s.extend added (Reference.fault? root base site).toList ∧
      (∀ p ∈ added, IsAsked base [site] p) ∧
      (∀ target, Reference.IsExternal site.reference →
        base.join (Reference.document site.reference) = .ok target →
        ∃ l ∈ (added.map (·.target)).reverse ++ s.seen, (l == target) = true) ∧
      (Distinct s.seen → Distinct ((added.map (·.target)).reverse ++ s.seen)) := by
  unfold note Reference.fault? extend
  dsimp only
  by_cases hempty : (Reference.document site.reference).isEmpty = true
  · rw [if_pos hempty, if_pos hempty]
    refine ⟨[], by simp, by simp, fun target hx _ => ?_, by simp⟩
    rw [Reference.IsExternal, hempty] at hx
    cases hx
  · rw [if_neg hempty, if_neg hempty]
    have hx : Reference.IsExternal site.reference := by simpa [Reference.IsExternal] using hempty
    cases hjoin : base.join (Reference.document site.reference) with
    | error e => exact ⟨[], by simp, by simp, fun _ _ ht => (nomatch ht), by simp⟩
    | ok target =>
      dsimp only
      by_cases hany : s.seen.any (· == target) = true
      · rw [if_pos hany]
        refine ⟨[], by simp, by simp, fun target' _ ht => ?_, by simp⟩
        obtain ⟨l, hl, heq⟩ := List.any_eq_true.1 hany
        obtain rfl := Except.ok.inj ht
        exact ⟨l, by simpa using hl, heq⟩
      · rw [if_neg hany]
        refine ⟨[⟨target, base, site.path⟩], by simp, ?_, fun target' _ ht => ?_, fun hs => ?_⟩
        · intro p hp
          rw [List.mem_singleton.1 hp]
          exact ⟨rfl, site, List.mem_singleton.2 rfl, rfl, hx, hjoin⟩
        · obtain rfl := Except.ok.inj ht
          exact ⟨target, by simp, BEq.refl target⟩
        · refine List.pairwise_cons.2 ⟨fun l hl => ?_, hs⟩
          rw [Bool.eq_false_iff]
          intro heq
          exact hany (List.any_eq_true.2 ⟨l, hl, BEq.symm heq⟩)

theorem foldl_note_spec (root base : Location) (sites : List Reference.Site) (s : Loading) :
    ∃ added, sites.foldl (note root base) s =
        s.extend added (sites.filterMap (Reference.fault? root base)) ∧
      (∀ p ∈ added, IsAsked base sites p) ∧
      (∀ site ∈ sites, ∀ target, Reference.IsExternal site.reference →
        base.join (Reference.document site.reference) = .ok target →
        ∃ l ∈ (added.map (·.target)).reverse ++ s.seen, (l == target) = true) ∧
      (Distinct s.seen → Distinct ((added.map (·.target)).reverse ++ s.seen)) := by
  induction sites generalizing s with
  | nil => exact ⟨[], by simp [extend], by simp, by simp, by simp⟩
  | cons site sites ih =>
    obtain ⟨first, hfirst, hasked, hseen, hdistinct⟩ := note_spec root base s site
    obtain ⟨rest, hrest, hasked', hseen', hdistinct'⟩ := ih (note root base s site)
    rw [hfirst] at hrest hseen' hdistinct'
    have hsplit : ((first ++ rest).map (·.target)).reverse ++ s.seen =
        (rest.map (·.target)).reverse ++ ((first.map (·.target)).reverse ++ s.seen) := by simp
    refine ⟨first ++ rest, ?_, ?_, ?_, ?_⟩
    · rw [List.foldl_cons, hfirst, hrest, List.filterMap_cons]
      cases Reference.fault? root base site <;> simp [extend]
    · intro p hp
      rcases List.mem_append.1 hp with hp | hp
      · obtain ⟨hbase, site', hsite', hrest'⟩ := hasked p hp
        exact ⟨hbase, site', List.mem_cons.2 (Or.inl (List.mem_singleton.1 hsite')), hrest'⟩
      · obtain ⟨hbase, site', hsite', hrest'⟩ := hasked' p hp
        exact ⟨hbase, site', List.mem_cons_of_mem _ hsite', hrest'⟩
    · intro site' hsite' target hx hjoin
      rw [hsplit]
      rcases List.mem_cons.1 hsite' with rfl | hsite'
      · obtain ⟨l, hl, heq⟩ := hseen target hx hjoin
        exact ⟨l, List.mem_append_right _ hl, heq⟩
      · exact hseen' site' hsite' target hx hjoin
    · intro hs
      rw [hsplit]
      exact hdistinct' (hdistinct hs)

/-! ## The invariant -/

/-- The documents that were looked at. -/
def documents (root : Location) (raw : Json) (s : Loading) : Documents := (root, raw) :: s.store

/-- A location was asked for in a document that was looked at. -/
def IsNoted (root : Location) (raw : Json) (s : Loading) (p : Pending) : Prop :=
  ∃ d ∈ s.documents root raw, IsAsked d.1 (Reference.sites d.2) p

/-- What is told of a document that is not there, and why it is not. -/
def failures (root : Location) (missed : List (Pending × String)) : List Diagnostic :=
  missed.map fun m => failure root m.1 m.2

/-- What is known of the worklist between two steps. -/
structure Invariant (w : World) (settings : FetchSettings) (root : Location) (raw : Json)
    (s : Loading) : Prop where
  seen : s.seen.reverse = root :: (s.visits.map (·.target) ++ s.queue.map (·.target))
  distinct : Distinct s.seen
  store : s.store = s.visits.filterMap fun v =>
    (tree w settings v.target).toOption.map fun document => (v.target, document)
  queue : ∀ p ∈ s.queue, s.IsNoted root raw p
  settled : ∀ d ∈ s.documents root raw, ∀ l, Reference.Cites d.1 d.2 l →
    ∃ l' ∈ s.seen, (l' == l) = true
  told : ∃ missed : List (Pending × String),
    missed.map (·.1.target) = (s.visits.map (·.target)).filter
      (fun l => !(tree w settings l).isOk) ∧
    (∀ m ∈ missed, s.IsNoted root raw m.1 ∧ tree w settings m.1.target = .error m.2) ∧
    s.findings.Perm (failures root missed ++
      (s.documents root raw).flatMap fun d => Reference.faults root d.1 d.2)

/-- The references of the root document are noted. -/
theorem start_invariant (w : World) (settings : FetchSettings) (root : Location) (raw : Json) :
    Invariant w settings root raw ((start root).noteAll root root raw) := by
  obtain ⟨added, heq, hasked, hseen, hdistinct⟩ :=
    foldl_note_spec root root (Reference.sites raw) (start root)
  rw [noteAll, heq]
  refine ⟨by simp [extend, start], ?_, rfl, ?_, ?_, [], rfl, by simp, ?_⟩
  · exact hdistinct (List.pairwise_singleton _ root)
  · intro p hp
    exact ⟨(root, raw), List.mem_cons_self, hasked p (by simpa [extend, start] using hp)⟩
  · rintro d hd l ⟨site, hsite, hx, hjoin⟩
    obtain rfl : d = (root, raw) := by simpa [documents, extend, start] using hd
    exact hseen site hsite l hx hjoin
  · simp [extend, start, documents, failures, Reference.faults]

/-- What was noted stays noted when documents are added. -/
theorem IsNoted.mono {t : Loading} {p : Pending} (h : s.IsNoted root raw p)
    (hst : ∀ d ∈ s.store, d ∈ t.store) : t.IsNoted root raw p := by
  obtain ⟨d, hd, hp⟩ := h
  refine ⟨d, ?_, hp⟩
  rcases List.mem_cons.1 hd with rfl | hd
  · exact List.mem_cons_self
  · exact List.mem_cons_of_mem _ (hst d hd)

/-- A document that is loaded is stored, and its references are noted. -/
theorem Invariant.keep {p : Pending} {rest : List Pending} {v : Json}
    (h : Invariant w settings root raw s) (hq : s.queue = p :: rest)
    (hv : tree w settings p.target = .ok v) :
    Invariant w settings root raw
      ((Loading.keep { s with queue := rest } p.target v).noteAll root p.target v) := by
  obtain ⟨added, heq, hasked, hseen, hdistinct⟩ := foldl_note_spec root p.target
    (Reference.sites v) (Loading.keep { s with queue := rest } p.target v)
  have hstore : ∀ d ∈ s.store, d ∈ (Loading.keep s p.target v).store := fun d hd =>
    List.mem_append_left _ hd
  obtain ⟨missed, hmissed, hnoted, hperm⟩ := h.told
  rw [noteAll, heq]
  refine ⟨?_, hdistinct h.distinct, ?_, ?_, ?_, missed, ?_, ?_, ?_⟩
  · simp [extend, Loading.keep, h.seen, hq]
  · simp [extend, Loading.keep, h.store, hv, Except.toOption]
  · intro q hq'
    rcases List.mem_append.1 hq' with hq' | hq'
    · have hwaits : q ∈ s.queue := by
        rw [hq]
        exact List.mem_cons_of_mem _ hq'
      exact (h.queue q hwaits).mono hstore
    · exact ⟨(p.target, v), by simp [documents, extend, Loading.keep], hasked q hq'⟩
  · rintro d hd l ⟨site, hsite, hx, hjoin⟩
    have hcases : d ∈ s.documents root raw ∨ d = (p.target, v) := by
      simpa [documents, extend, Loading.keep, or_assoc] using hd
    rcases hcases with hd | rfl
    · obtain ⟨l', hl', hll⟩ := h.settled d hd l ⟨site, hsite, hx, hjoin⟩
      exact ⟨l', List.mem_append_right _ hl', hll⟩
    · exact hseen site hsite l hx hjoin
  · simp [extend, Loading.keep, hmissed, hv, Except.isOk, Except.toBool]
  · intro m hm
    exact ⟨(hnoted m hm).1.mono hstore, (hnoted m hm).2⟩
  · simp only [extend, Loading.keep, documents, List.flatMap_cons, List.flatMap_append,
      List.flatMap_nil, List.append_nil] at hperm ⊢
    rw [← List.append_assoc, ← List.append_assoc, List.append_assoc (failures root missed)]
    exact hperm.append_right _

/-- A document that is not there is told. -/
theorem Invariant.miss {p : Pending} {rest : List Pending} {reason : String}
    (h : Invariant w settings root raw s) (hq : s.queue = p :: rest)
    (hv : tree w settings p.target = .error reason) :
    Invariant w settings root raw
      (Loading.miss { s with queue := rest } p.target (failure root p reason)) := by
  obtain ⟨missed, hmissed, hnoted, hperm⟩ := h.told
  have hmem : ∀ q ∈ p :: rest, s.IsNoted root raw q := hq ▸ h.queue
  refine ⟨?_, h.distinct, ?_, ?_, h.settled, missed ++ [(p, reason)], ?_, ?_, ?_⟩
  · simp [Loading.miss, h.seen, hq]
  · simp [Loading.miss, h.store, hv, Except.toOption]
  · intro q hq'
    exact hmem q (List.mem_cons_of_mem _ hq')
  · simp [Loading.miss, hmissed, hv, Except.isOk, Except.toBool]
  · intro m hm
    rcases List.mem_append.1 hm with hm | hm
    · exact hnoted m hm
    · obtain rfl := List.mem_singleton.1 hm
      exact ⟨hmem p List.mem_cons_self, hv⟩
  · show (s.findings ++ [failure root p reason]).Perm _
    rw [failures, List.map_append, List.append_assoc]
    refine (hperm.append_right _).trans ?_
    rw [List.append_assoc]
    exact List.perm_append_comm.append_left _

theorem step_of_nil (h : s.queue = []) : step w settings root s = s := by
  simp only [step, h]

theorem step_invariant (h : Invariant w settings root raw s) :
    Invariant w settings root raw (step w settings root s) := by
  cases hq : s.queue with
  | nil => rwa [step_of_nil hq]
  | cons p rest =>
    simp only [step, hq, load]
    split
    · next v hv => exact h.keep hq hv
    · next reason hv => exact h.miss hq hv

/-- The worklist after a number of steps. -/
def after (w : World) (settings : FetchSettings) (root : Location) (raw : Json) (n : Nat) :
    Loading :=
  (step w settings root)^[n] ((start root).noteAll root root raw)

theorem after_succ (n : Nat) :
    after w settings root raw (n + 1) = step w settings root (after w settings root raw n) :=
  Function.iterate_succ_apply' _ n _

theorem after_invariant (w : World) (settings : FetchSettings) (root : Location) (raw : Json)
    (n : Nat) : Invariant w settings root raw (after w settings root raw n) := by
  induction n with
  | zero => exact start_invariant w settings root raw
  | succ n ih =>
    rw [after_succ]
    exact step_invariant ih

/-! ## Runs -/

/-- The state when what still waits is given up. -/
def giveUp (root : Location) (s : Loading) : Loading :=
  { s with queue := [],
           findings := s.findings ++ s.queue.map (failure root · "too many documents") }

theorem giveUp_of_nil (h : s.queue = []) : giveUp root s = s := by
  obtain ⟨seen, queue, store, findings, visits⟩ := s
  obtain rfl : queue = [] := h
  simp [giveUp]

/-- A run is a number of steps. -/
theorem run_eq (n : Nat) (s : Loading) :
    run w settings root n s = giveUp root ((step w settings root)^[n] s) := by
  induction n generalizing s with
  | zero => rfl
  | succ n ih =>
    rw [run]
    by_cases hempty : s.queue.isEmpty = true
    · have hq : s.queue = [] := List.isEmpty_iff.1 hempty
      rw [if_pos hempty, Function.iterate_fixed (step_of_nil hq), giveUp_of_nil hq]
    · rw [if_neg hempty, ih, Function.iterate_succ_apply]

/-- Whatever is found is found at a reference. -/
theorem Invariant.isFinding (h : Invariant w settings root raw s) :
    ∀ f ∈ (giveUp root s).findings, Reference.IsFinding root f := by
  intro f hf
  obtain ⟨missed, _, _, hperm⟩ := h.told
  rcases List.mem_append.1 hf with hf | hf
  · rcases List.mem_append.1 (hperm.mem_iff.1 hf) with hf | hf
    · obtain ⟨m, _, rfl⟩ := List.mem_map.1 hf
      exact ⟨_, _, _, rfl⟩
    · obtain ⟨d, _, hf⟩ := List.mem_flatMap.1 hf
      exact Reference.faults_isFinding hf
  · obtain ⟨p, _, rfl⟩ := List.mem_map.1 hf
    exact ⟨_, _, _, rfl⟩

/-- If nothing is found, every visit is stored. -/
theorem Invariant.mem_store (h : Invariant w settings root raw s) (hf : s.findings = [])
    {v : Visit} (hv : v ∈ s.visits) : ∃ document, (v.target, document) ∈ s.store := by
  obtain ⟨missed, hmissed, _, hperm⟩ := h.told
  rw [hf, List.nil_perm, List.append_eq_nil_iff] at hperm
  rw [List.map_eq_nil_iff.1 hperm.1, List.map_nil, eq_comm, List.filter_eq_nil_iff] at hmissed
  have hloaded := hmissed v.target (List.mem_map.2 ⟨v, hv, rfl⟩)
  cases htree : tree w settings v.target with
  | error e => simp [htree, Except.isOk, Except.toBool] at hloaded
  | ok document =>
    refine ⟨document, ?_⟩
    rw [h.store]
    exact List.mem_filterMap.2 ⟨v, hv, by simp [htree, Except.toOption]⟩

/-- If nothing is found, every site leads to a location. -/
theorem Invariant.exists_join (h : Invariant w settings root raw s) (hf : s.findings = [])
    {d : Location × Json} (hd : d ∈ s.documents root raw) {site : Reference.Site}
    (hsite : site ∈ Reference.sites d.2) (hx : Reference.IsExternal site.reference) :
    ∃ target, d.1.join (Reference.document site.reference) = .ok target := by
  obtain ⟨missed, _, _, hperm⟩ := h.told
  rw [hf, List.nil_perm, List.append_eq_nil_iff] at hperm
  refine Reference.exists_join_of_fault? (?_ : Reference.fault? root d.1 site = none) hx
  cases hfault : Reference.fault? root d.1 site with
  | none => rfl
  | some f =>
    have hmem : f ∈ (s.documents root raw).flatMap fun d => Reference.faults root d.1 d.2 :=
      List.mem_flatMap.2 ⟨d, hd, List.mem_filterMap.2 ⟨site, hsite, hfault⟩⟩
    rw [hperm.2] at hmem
    cases hmem

/-- What is seen and does not wait is the root document or was visited. -/
theorem Invariant.seen_cases (h : Invariant w settings root raw s) (hq : s.queue = [])
    {l : Location} (hl : l ∈ s.seen) : l = root ∨ l ∈ s.visits.map (·.target) := by
  have hl' := List.mem_reverse.2 hl
  rw [h.seen, hq, List.map_nil, List.append_nil] at hl'
  exact List.mem_cons.1 hl'

/-- If nothing is found and nothing given up, every site leads to a document that is there. -/
theorem Invariant.exists_document (h : Invariant w settings root raw s)
    (hf : (giveUp root s).findings = []) {d : Location × Json} (hd : d ∈ s.documents root raw)
    {site : Reference.Site} (hsite : site ∈ Reference.sites d.2)
    (hx : Reference.IsExternal site.reference) :
    ∃ target, d.1.join (Reference.document site.reference) = .ok target ∧
      ((target == root) = true ∨ ∃ e ∈ s.store, (e.1 == target) = true) := by
  obtain ⟨hnone, hwaits⟩ := List.append_eq_nil_iff.1 hf
  obtain ⟨target, hjoin⟩ := h.exists_join hnone hd hsite hx
  obtain ⟨l, hl, heq⟩ := h.settled d hd target ⟨site, hsite, hx, hjoin⟩
  refine ⟨target, hjoin, ?_⟩
  rcases h.seen_cases (List.map_eq_nil_iff.1 hwaits) hl with rfl | hvisit
  · exact Or.inl (BEq.symm heq)
  · obtain ⟨v, hv, rfl⟩ := List.mem_map.1 hvisit
    obtain ⟨document, hmem⟩ := h.mem_store hnone hv
    exact Or.inr ⟨(v.target, document), hmem, heq⟩

end Loading

/-- Wherever the root document is, what is loaded is left after the same number of steps. -/
theorem World.exists_loadReferences_eq_after (w : World) (settings : FetchSettings) (raw : Json) :
    ∃ n, ∀ root, w.loadReferences settings raw root =
      Loading.giveUp root (Loading.after w settings root raw n) := by
  refine ⟨Loading.budget, fun root => ?_⟩
  rw [loadReferences, Loading.run_eq, Loading.after]

/-- What is loaded is known from a state between two steps. -/
theorem World.exists_loadReferences_eq (w : World) (settings : FetchSettings) (raw : Json)
    (root : Location) : ∃ s, Loading.Invariant w settings root raw s ∧
      w.loadReferences settings raw root = Loading.giveUp root s := by
  obtain ⟨n, hn⟩ := w.exists_loadReferences_eq_after settings raw
  exact ⟨_, Loading.after_invariant w settings root raw n, hn root⟩

/-- Whatever loading finds is found at a reference. -/
theorem World.loadReferences_findings (w : World) (settings : FetchSettings) (raw : Json)
    (root : Location) :
    ∀ f ∈ (w.loadReferences settings raw root).findings, Reference.IsFinding root f := by
  obtain ⟨s, h, heq⟩ := w.exists_loadReferences_eq settings raw root
  rw [heq]
  exact h.isFinding

/-- Loading that finds nothing leaves no site of the root document, or of a stored one, without the
document that it refers to. -/
theorem World.exists_document_of_site {w : World} {settings : FetchSettings} {raw : Json}
    {root : Location} (hf : (w.loadReferences settings raw root).findings = [])
    {d : Location × Json} (hd : d ∈ (root, raw) :: (w.loadReferences settings raw root).store)
    {site : Reference.Site} (hsite : site ∈ Reference.sites d.2)
    (hx : Reference.IsExternal site.reference) :
    ∃ target, d.1.join (Reference.document site.reference) = .ok target ∧
      ((target == root) = true ∨
        ∃ e ∈ (w.loadReferences settings raw root).store, (e.1 == target) = true) := by
  obtain ⟨s, h, heq⟩ := w.exists_loadReferences_eq settings raw root
  rw [heq] at hf hd ⊢
  exact h.exists_document hf hd hsite hx

end MessageContract
