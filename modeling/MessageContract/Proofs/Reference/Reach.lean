import Mathlib.Data.Set.Card
import MessageContract.Proofs.Reference.Loading

/-!
# The documents that references reach

The locations that references lead to, from the root document on (`World.Reaches`), each taken in
some spelling: locations may be equal and yet be written differently, and then they need not load
alike. Where they are finitely many the worklist runs empty; it loads what is reached in the
spelling that is met first, and that is all that is reached exactly if no two of the locations are
equal (`World.loads_reach`).
-/

namespace MessageContract

variable (w : World) (settings : FetchSettings) (root : Location) (raw : Json)

/-- The locations that references lead to, in their spelling: from the root document, and from
every document that loads. The root document is not loaded again. -/
inductive World.Reaches (spelling : Location → Location) : Location → Prop
  | root {l : Location} (cited : Reference.Cites root raw l) (other : (l == root) = false) :
      Reaches spelling (spelling l)
  | step {b l : Location} {v : Json} (reached : Reaches spelling b)
      (loaded : Loading.tree w settings b = .ok v) (cited : Reference.Cites b v l)
      (other : (l == root) = false) : Reaches spelling (spelling l)

/-- The set of these locations. -/
def World.reach (spelling : Location → Location) : Set Location :=
  {l | w.Reaches settings root raw spelling l}

/-- The worklist loaded exactly the documents at some locations. -/
structure World.Loads (reach : Set Location) (t : Loading) : Prop where
  ended : t.queue = []
  /-- Each location is visited once. -/
  once : (t.visits.map (·.target)).Nodup
  visited : ∀ l, l ∈ t.visits.map (·.target) ↔ l ∈ reach
  /-- A location has one document at most. -/
  keys : (t.store.map (·.1)).Nodup
  stored : ∀ l v, (l, v) ∈ t.store ↔ l ∈ reach ∧ Loading.tree w settings l = .ok v
  /-- Each location that does not load is told once, and so is each reference that leads nowhere. -/
  told : ∃ missed : List (Pending × String),
    (missed.map (·.1.target)).Nodup ∧
    (∀ l, l ∈ missed.map (·.1.target) ↔ l ∈ reach ∧ ∃ e, Loading.tree w settings l = .error e) ∧
    (∀ m ∈ missed, t.IsNoted root raw m.1 ∧ Loading.tree w settings m.1.target = .error m.2) ∧
    t.findings.Perm (Loading.failures root missed ++
      (t.documents root raw).flatMap fun d => Reference.faults root d.1 d.2)

/-- The locations have the same tree, and references lead from them to the same locations. -/
structure World.Alike (a b : Location) : Prop where
  tree : Loading.tree w settings a = Loading.tree w settings b
  join : ∀ reference, a.join reference = b.join reference

/-- The spelling of a location that was met first. -/
def Loading.spelling (t : Loading) (l : Location) : Location := (t.seen.find? (· == l)).getD l

variable {w settings root raw}

namespace Loading

variable {s t : Loading}

theorem Distinct.eq_of_beq {ls : List Location} (h : Distinct ls) {a b : Location} (ha : a ∈ ls)
    (hb : b ∈ ls) (heq : (a == b) = true) : a = b := by
  have : Std.Symm fun a b : Location => (a == b) = false := ⟨fun _ _ => BEq.symm_false⟩
  by_contra hne
  rw [List.Pairwise.forall h ha hb hne] at heq
  cases heq

/-! ## Spellings -/

theorem spelling_beq (t : Loading) (l : Location) : (t.spelling l == l) = true := by
  unfold spelling
  cases hfind : t.seen.find? (· == l) with
  | none => exact BEq.refl l
  | some l' => exact List.find?_some (p := (· == l)) hfind

theorem spelling_mem {l l' : Location} (hl' : l' ∈ t.seen) (heq : (l' == l) = true) :
    t.spelling l ∈ t.seen := by
  have hsome : (t.seen.find? (· == l)).isSome = true := List.find?_isSome.2 ⟨l', hl', heq⟩
  obtain ⟨x, hx⟩ := Option.isSome_iff_exists.1 hsome
  rw [spelling, hx]
  exact List.mem_of_find?_eq_some hx

/-- A location that is seen is met in its own spelling first. -/
theorem spelling_of_mem (h : Distinct t.seen) {l : Location} (hl : l ∈ t.seen) :
    t.spelling l = l :=
  h.eq_of_beq (spelling_mem hl (BEq.refl l)) hl (t.spelling_beq l)

/-! ## What is visited is reached -/

/-- What is seen besides the root document is reached, in every spelling that it has. -/
def IsFound (w : World) (settings : FetchSettings) (root : Location) (raw : Json) (s : Loading) :
    Prop :=
  ∀ spelling, (∀ l ∈ s.seen, spelling l = l) →
    ∀ l ∈ s.seen, l = root ∨ w.Reaches settings root raw spelling l

theorem mem_seen_iff (h : Invariant w settings root raw s) {l : Location} :
    l ∈ s.seen ↔ l = root ∨ l ∈ s.visits.map (·.target) ∨ l ∈ s.queue.map (·.target) := by
  rw [← List.mem_reverse, h.seen, List.mem_cons, List.mem_append]

theorem Invariant.root_mem (h : Invariant w settings root raw s) : root ∈ s.seen :=
  (mem_seen_iff h).2 (Or.inl rfl)

/-- The locations that were visited or wait are pairwise different, and none is the root
document's. -/
theorem Invariant.distinct_targets (h : Invariant w settings root raw s) :
    (∀ l ∈ s.visits.map (·.target) ++ s.queue.map (·.target), (l == root) = false) ∧
      Distinct (s.visits.map (·.target) ++ s.queue.map (·.target)) := by
  have hreverse : s.seen.reverse.Pairwise fun a b => (a == b) = false := by
    rw [List.pairwise_reverse]
    exact h.distinct.imp BEq.symm_false
  rw [h.seen, List.pairwise_cons] at hreverse
  exact ⟨fun l hl => BEq.symm_false (hreverse.1 l hl), hreverse.2⟩

/-- The locations that noting adds are cited. -/
theorem exists_seen_noteAll (root base : Location) (s : Loading) (document : Json) :
    ∃ added, (s.noteAll root base document).seen = added ++ s.seen ∧
      ∀ l ∈ added, Reference.Cites base document l := by
  obtain ⟨added, heq, hasked, _, _⟩ :=
    foldl_note_spec root base (Reference.sites document) s
  refine ⟨(added.map (·.target)).reverse, by rw [noteAll, heq]; rfl, fun l hl => ?_⟩
  obtain ⟨p, hp, rfl⟩ := List.mem_map.1 (List.mem_reverse.1 hl)
  obtain ⟨_, site, hsite, _, hx, hjoin⟩ := hasked p hp
  exact ⟨site, hsite, hx, hjoin⟩

theorem IsFound.noteAll {base : Location} {document : Json}
    (hs : IsFound w settings root raw s)
    (h : Invariant w settings root raw (s.noteAll root base document))
    (hcited : ∀ spelling, (∀ l ∈ s.seen, spelling l = l) → ∀ l,
      Reference.Cites base document l → (l == root) = false →
        w.Reaches settings root raw spelling (spelling l)) :
    IsFound w settings root raw (s.noteAll root base document) := by
  obtain ⟨added, hseen, hadded⟩ := exists_seen_noteAll root base s document
  intro spelling hspelling l hl
  have hold : ∀ l ∈ s.seen, spelling l = l := by
    intro l hl
    refine hspelling l ?_
    rw [hseen]
    exact List.mem_append_right _ hl
  by_cases hroot : l = root
  · exact Or.inl hroot
  have hl' := hl
  rw [hseen] at hl'
  rcases List.mem_append.1 hl' with hnew | hl'
  · have hother : (l == root) = false :=
      Bool.eq_false_iff.2 fun heq => hroot (h.distinct.eq_of_beq hl h.root_mem heq)
    rw [← hspelling l hl]
    exact Or.inr (hcited spelling hold l (hadded l hnew) hother)
  · exact hs spelling hold l hl'

theorem start_isFound (w : World) (settings : FetchSettings) (root : Location) (raw : Json) :
    IsFound w settings root raw ((start root).noteAll root root raw) := by
  refine IsFound.noteAll ?_ (start_invariant w settings root raw) fun spelling _ l hl hother =>
    World.Reaches.root hl hother
  intro spelling _ l hl
  exact Or.inl (List.mem_singleton.1 hl)

theorem step_isFound (h : Invariant w settings root raw s)
    (hs : IsFound w settings root raw s) :
    IsFound w settings root raw (step w settings root s) := by
  have hstep := step_invariant h
  cases hq : s.queue with
  | nil => rwa [step_of_nil hq]
  | cons p rest =>
    simp only [step, hq, load] at hstep ⊢
    split
    · next v hv =>
      simp only [hv] at hstep
      refine IsFound.noteAll hs hstep fun spelling hspelling l hl hother => ?_
      have hwaits : p.target ∈ s.queue.map (·.target) := by
        rw [hq]
        exact List.mem_cons_self
      have hother' := h.distinct_targets.1 p.target (List.mem_append_right _ hwaits)
      rcases hs spelling hspelling p.target ((mem_seen_iff h).2 (Or.inr (Or.inr hwaits))) with
        heq | hreached
      · exact absurd heq (ne_of_beq_false hother')
      · exact World.Reaches.step hreached hv hl hother
    · exact hs

theorem after_isFound (w : World) (settings : FetchSettings) (root : Location) (raw : Json)
    (n : Nat) : IsFound w settings root raw (after w settings root raw n) := by
  induction n with
  | zero => exact start_isFound w settings root raw
  | succ n ih =>
    rw [after_succ]
    exact step_isFound (after_invariant w settings root raw n) ih

/-- Whatever was visited or waits is reached. -/
theorem reaches_of_mem (hs : IsFound w settings root raw s)
    (h : Invariant w settings root raw s) {spelling : Location → Location}
    (hspelling : ∀ l ∈ s.seen, spelling l = l) {l : Location}
    (hl : l ∈ s.visits.map (·.target) ++ s.queue.map (·.target)) :
    w.Reaches settings root raw spelling l := by
  have hseen : l ∈ s.seen := (mem_seen_iff h).2 (Or.inr (List.mem_append.1 hl))
  rcases hs spelling hspelling l hseen with heq | hreached
  · exact absurd heq (ne_of_beq_false (h.distinct_targets.1 l hl))
  · exact hreached

/-! ## The worklist runs empty -/

theorem noteAll_visits (root base : Location) (s : Loading) (document : Json) :
    (s.noteAll root base document).visits = s.visits := by
  obtain ⟨added, heq, _⟩ := foldl_note_spec root base (Reference.sites document) s
  rw [noteAll, heq]
  rfl

theorem length_visits_step (hq : s.queue ≠ []) :
    (step w settings root s).visits.length = s.visits.length + 1 := by
  obtain ⟨p, rest, hq⟩ := List.exists_cons_of_ne_nil hq
  simp only [step, hq, load]
  split
  · rw [noteAll_visits, keep, List.length_append, List.length_singleton]
  · rw [miss, List.length_append, List.length_singleton]

/-- Every step visits a location until none waits. -/
theorem after_progress (w : World) (settings : FetchSettings) (root : Location) (raw : Json)
    (n : Nat) : (after w settings root raw n).queue = [] ∨
      (after w settings root raw n).visits.length = n := by
  induction n with
  | zero =>
    refine Or.inr ?_
    show ((start root).noteAll root root raw).visits.length = 0
    rw [noteAll_visits]
    rfl
  | succ n ih =>
    rw [after_succ]
    rcases ih with hq | hlength
    · exact Or.inl (by rw [step_of_nil hq, hq])
    · by_cases hq : (after w settings root raw n).queue = []
      · exact Or.inl (by rw [step_of_nil hq, hq])
      · exact Or.inr (by rw [length_visits_step hq, hlength])

theorem length_le_ncard {ls : List Location} {reach : Set Location} (hfin : reach.Finite)
    (hnodup : ls.Nodup) (hsub : ∀ l ∈ ls, l ∈ reach) : ls.length ≤ reach.ncard := by
  rw [Set.ncard_eq_toFinset_card reach hfin, ← Finset.length_toList]
  refine (hnodup.subperm fun l hl => ?_).length_le
  rw [Finset.mem_toList, Set.Finite.mem_toFinset]
  exact hsub l hl

theorem after_ended (hfin : (w.reach settings root raw id).Finite) :
    (after w settings root raw (w.reach settings root raw id).ncard).queue = [] := by
  generalize hn : (w.reach settings root raw id).ncard = n
  have h := after_invariant w settings root raw n
  have hfound := after_isFound w settings root raw n
  rcases after_progress w settings root raw n with hq | hlength
  · exact hq
  · have hsub : ∀ l ∈ (after w settings root raw n).visits.map (·.target) ++
        (after w settings root raw n).queue.map (·.target), l ∈ w.reach settings root raw id :=
      fun l hl => reaches_of_mem hfound h (fun _ _ => rfl) hl
    have hle := length_le_ncard hfin h.distinct_targets.2.nodup hsub
    rw [hn] at hle
    rw [List.length_append, List.length_map, List.length_map, hlength] at hle
    exact List.eq_nil_of_length_eq_zero (by omega)

theorem after_stable {n m : Nat} (hq : (after w settings root raw n).queue = []) (hm : n ≤ m) :
    after w settings root raw m = after w settings root raw n := by
  obtain ⟨k, rfl⟩ := Nat.exists_eq_add_of_le' hm
  rw [after, Function.iterate_add_apply]
  exact Function.iterate_fixed (step_of_nil hq) k

/-- Once the worklist is empty a run has no more to do. -/
theorem run_eq_after {n m : Nat} (hq : (after w settings root raw n).queue = []) (hm : n ≤ m) :
    run w settings root m ((start root).noteAll root root raw) = after w settings root raw n := by
  rw [run_eq]
  show giveUp root (after w settings root raw m) = _
  rw [after_stable hq hm, giveUp_of_nil hq]

/-! ## What is reached is visited -/

theorem keys_sublist (w : World) (settings : FetchSettings) (vs : List Visit) :
    ((vs.filterMap fun v => (tree w settings v.target).toOption.map fun document =>
      (v.target, document)).map (·.1)).Sublist (vs.map (·.target)) := by
  induction vs with
  | nil => exact List.Sublist.refl _
  | cons v vs ih =>
    rw [List.filterMap_cons, List.map_cons]
    cases (tree w settings v.target).toOption with
    | none => exact ih.cons v.target
    | some document => exact ih.cons_cons v.target

/-- An empty worklist loaded what it visited. -/
theorem Invariant.loads (h : Invariant w settings root raw s) (hq : s.queue = [])
    {reach : Set Location} (hreach : ∀ l, l ∈ s.visits.map (·.target) ↔ l ∈ reach) :
    w.Loads settings root raw reach s := by
  have hnodup : (s.visits.map (·.target)).Nodup := by
    have hdistinct := h.distinct_targets.2.nodup
    rwa [hq, List.map_nil, List.append_nil] at hdistinct
  refine ⟨hq, hnodup, hreach, ?_, fun l v => ?_, ?_⟩
  · rw [h.store]
    exact hnodup.sublist (keys_sublist w settings s.visits)
  · rw [h.store, List.mem_filterMap, ← hreach, List.mem_map]
    constructor
    · rintro ⟨visit, hvisit, heq⟩
      obtain ⟨document, hdocument, heq⟩ := Option.map_eq_some_iff.1 heq
      cases heq
      refine ⟨⟨visit, hvisit, rfl⟩, ?_⟩
      cases htree : tree w settings visit.target with
      | error e => simp [htree, Except.toOption] at hdocument
      | ok v => simpa [htree, Except.toOption] using hdocument
    · rintro ⟨⟨visit, hvisit, rfl⟩, hv⟩
      exact ⟨visit, hvisit, by rw [hv]; rfl⟩
  · obtain ⟨missed, hmissed, hnoted, hperm⟩ := h.told
    refine ⟨missed, hmissed ▸ hnodup.filter _, fun l => ?_, hnoted, hperm⟩
    rw [hmissed, List.mem_filter, hreach]
    refine and_congr_right fun _ => ?_
    cases tree w settings l <;> simp [Except.isOk, Except.toBool]

/-- What is cited in a document that was looked at was visited, in some spelling. -/
theorem Invariant.cited (h : Invariant w settings root raw s) (hq : s.queue = [])
    {d : Location × Json} (hd : d ∈ s.documents root raw) {l : Location}
    (hl : Reference.Cites d.1 d.2 l) (hother : (l == root) = false) :
    s.spelling l ∈ s.visits.map (·.target) := by
  obtain ⟨l', hl', heq⟩ := h.settled d hd l hl
  rcases h.seen_cases hq (spelling_mem hl' heq) with hroot | hvisit
  · have hbeq := s.spelling_beq l
    rw [hroot] at hbeq
    rw [BEq.symm hbeq] at hother
    cases hother
  · exact hvisit

theorem Invariant.mem_documents (h : Invariant w settings root raw s) {l : Location} {v : Json}
    (hl : l ∈ s.visits.map (·.target)) (hv : tree w settings l = .ok v) :
    (l, v) ∈ s.documents root raw := by
  obtain ⟨visit, hvisit, rfl⟩ := List.mem_map.1 hl
  refine List.mem_cons_of_mem _ ?_
  rw [h.store]
  exact List.mem_filterMap.2 ⟨visit, hvisit, by rw [hv]; rfl⟩

/-- What is visited is what is reached in the spelling that was met first. -/
theorem Invariant.mem_visits_iff (h : Invariant w settings root raw s)
    (hs : IsFound w settings root raw s) (hq : s.queue = []) (l : Location) :
    l ∈ s.visits.map (·.target) ↔ l ∈ w.reach settings root raw s.spelling := by
  constructor
  · intro hl
    exact reaches_of_mem hs h (fun l hl => spelling_of_mem h.distinct hl)
      (List.mem_append_left _ hl)
  · intro hl
    induction hl with
    | root hcited hother => exact h.cited hq List.mem_cons_self hcited hother
    | step _ hloaded hcited hother ih => exact h.cited hq (h.mem_documents ih hloaded) hcited hother

theorem Invariant.visits_subset (h : Invariant w settings root raw s)
    (hs : IsFound w settings root raw s) {l : Location} (hl : l ∈ s.visits.map (·.target)) :
    w.Reaches settings root raw id l :=
  reaches_of_mem hs h (fun _ _ => rfl) (List.mem_append_left _ hl)

/-- The worklist loads all that is reached exactly if no two locations that are reached are equal
and written differently. -/
theorem Invariant.loads_iff (h : Invariant w settings root raw s)
    (hs : IsFound w settings root raw s) (hq : s.queue = []) :
    w.Loads settings root raw (w.reach settings root raw id) s ↔
      ∀ a ∈ w.reach settings root raw id, ∀ b ∈ w.reach settings root raw id,
        (a == b) = true → a = b := by
  constructor
  · intro hloads a ha b hb heq
    have hdistinct := h.distinct_targets.2
    refine hdistinct.eq_of_beq (List.mem_append_left _ ((hloads.visited a).2 ha))
      (List.mem_append_left _ ((hloads.visited b).2 hb)) heq
  · intro halias
    refine h.loads hq fun l => ⟨h.visits_subset hs, fun hl => ?_⟩
    -- a location that is reached was met in its own spelling first
    have hown : ∀ l, w.Reaches settings root raw id l → s.spelling l ∈ s.visits.map (·.target) →
        l ∈ s.visits.map (·.target) := by
      intro l hl hvisit
      rw [halias l hl _ (h.visits_subset hs hvisit) (BEq.symm (s.spelling_beq l))]
      exact hvisit
    induction hl with
    | root hcited hother =>
      exact hown _ (World.Reaches.root hcited hother)
        (h.cited hq List.mem_cons_self hcited hother)
    | step hreached hloaded hcited hother ih =>
      exact hown _ (World.Reaches.step hreached hloaded hcited hother)
        (h.cited hq (h.mem_documents ih hloaded) hcited hother)

/-- Where equal locations are alike, each that is reached is loaded in some spelling. -/
theorem Invariant.alike (h : Invariant w settings root raw s)
    (hs : IsFound w settings root raw s) (hq : s.queue = [])
    (halike : ∀ a ∈ w.reach settings root raw id, ∀ b ∈ w.reach settings root raw id,
      (a == b) = true → w.Alike settings a b) {l : Location}
    (hl : w.Reaches settings root raw id l) :
    s.spelling l ∈ s.visits.map (·.target) ∧
      tree w settings (s.spelling l) = tree w settings l := by
  have htree : ∀ l, w.Reaches settings root raw id l → s.spelling l ∈ s.visits.map (·.target) →
      w.Alike settings (s.spelling l) l := by
    intro l hl hvisit
    exact halike _ (h.visits_subset hs hvisit) l hl (s.spelling_beq l)
  induction hl with
  | root hcited hother =>
    have hvisit := h.cited hq List.mem_cons_self hcited hother
    exact ⟨hvisit, (htree _ (World.Reaches.root hcited hother) hvisit).tree⟩
  | @step b l v hreached hloaded hcited hother ih =>
    obtain ⟨hb, hbtree⟩ := ih
    have hcited' : Reference.Cites (s.spelling b) v l := by
      obtain ⟨site, hsite, hx, hjoin⟩ := hcited
      refine ⟨site, hsite, hx, ?_⟩
      rw [(htree b hreached hb).join]
      exact hjoin
    have hvisit := h.cited hq (h.mem_documents hb (hbtree.trans hloaded)) hcited' hother
    exact ⟨hvisit, (htree _ (World.Reaches.step hreached hloaded hcited hother) hvisit).tree⟩

end Loading

theorem World.loadReferences_eq_after {n : Nat}
    (hq : (Loading.after w settings root raw n).queue = []) (hn : n ≤ Loading.budget) :
    w.loadReferences settings raw root = Loading.after w settings root raw n := by
  rw [loadReferences]
  generalize Loading.budget = budget at hn
  exact Loading.run_eq_after hq hn

/-! ## Files that references reach -/

/-- The location is the file, in this spelling. -/
def Location.isAt (p : FilePath) : Location → Bool
  | .file q => decide (q = p)
  | _ => false

theorem Location.isAt_iff {p : FilePath} {l : Location} : l.isAt p = true ↔ l = .file p := by
  cases l <;> simp [isAt]

/-- The locations that a document cites, in order. -/
def Reference.targets (base : Location) (document : Json) : List Location :=
  (sites document).filterMap fun site =>
    if (Reference.document site.reference).isEmpty then none
    else (base.join (Reference.document site.reference)).toOption

theorem Reference.mem_targets_iff {base l : Location} {document : Json} :
    l ∈ targets base document ↔ Cites base document l := by
  rw [targets, List.mem_filterMap]
  refine exists_congr fun site => and_congr_right fun _ => ?_
  unfold IsExternal
  cases (Reference.document site.reference).isEmpty with
  | true => simp
  | false =>
    cases base.join (Reference.document site.reference) <;> simp [Except.toOption]

/-- No reference leads from the root document or from the files to anything but the files. -/
def World.closes (w : World) (settings : FetchSettings) (root : Location) (raw : Json)
    (ps : List FilePath) : Bool :=
  let cited (p : FilePath) : List Location :=
    match Loading.tree w settings (.file p) with
    | .ok v => Reference.targets (.file p) v
    | .error _ => []
  (Reference.targets root raw ++ ps.flatMap cited).all fun l => ps.any l.isAt

theorem World.reach_subset {ps : List FilePath} (h : w.closes settings root raw ps = true) :
    ∀ l ∈ w.reach settings root raw id, l ∈ ps.map Location.file := by
  have hclosed := List.all_eq_true.1 h
  have hfile : ∀ l, ps.any l.isAt = true → l ∈ ps.map Location.file := by
    intro l hl
    obtain ⟨p, hp, hat⟩ := List.any_eq_true.1 hl
    exact List.mem_map.2 ⟨p, hp, (Location.isAt_iff.1 hat).symm⟩
  intro l hl
  induction hl with
  | root hcited _ =>
    exact hfile _ (hclosed _ (List.mem_append_left _ (Reference.mem_targets_iff.2 hcited)))
  | step _ hloaded hcited _ ih =>
    obtain ⟨p, hp, rfl⟩ := List.mem_map.1 ih
    refine hfile _ (hclosed _ (List.mem_append_right _ (List.mem_flatMap.2 ⟨p, hp, ?_⟩)))
    rw [hloaded]
    exact Reference.mem_targets_iff.2 hcited

theorem World.reach_finite {ps : List FilePath} (h : w.closes settings root raw ps = true) :
    (w.reach settings root raw id).Finite :=
  (ps.map Location.file).finite_toSet.subset (World.reach_subset h)

theorem World.ncard_reach_le {ps : List FilePath} (h : w.closes settings root raw ps = true) :
    (w.reach settings root raw id).ncard ≤ ps.length := by
  classical
  have hle : (w.reach settings root raw id).ncard ≤ {l | l ∈ ps.map Location.file}.ncard :=
    Set.ncard_le_ncard (World.reach_subset h) (ps.map Location.file).finite_toSet
  rw [← List.coe_toFinset, Set.ncard_coe_finset] at hle
  exact hle.trans ((List.toFinset_card_le _).trans (List.length_map _).le)

/-! ## All that is reached is loaded -/

/-- The worklist runs empty when finitely many locations are reached, and no budget that suffices
changes what it comes to. It loads what is reached in the spelling that is met first. That is all
that is reached exactly if no two locations that are reached are equal and written differently, and
nothing is lost by it if equal ones are alike. -/
theorem World.loads_reach (w : World) (settings : FetchSettings) (root : Location) (raw : Json)
    (hfin : (w.reach settings root raw id).Finite) :
    let N := (w.reach settings root raw id).ncard
    let t := Loading.after w settings root raw N
    (∀ n ≥ N, Loading.run w settings root n ((Loading.start root).noteAll root root raw) = t) ∧
    (N ≤ Loading.budget → w.loadReferences settings raw root = t) ∧
    w.Loads settings root raw (w.reach settings root raw t.spelling) t ∧
    (w.Loads settings root raw (w.reach settings root raw id) t ↔
      ∀ a ∈ w.reach settings root raw id, ∀ b ∈ w.reach settings root raw id,
        (a == b) = true → a = b) ∧
    ((∀ a ∈ w.reach settings root raw id, ∀ b ∈ w.reach settings root raw id,
        (a == b) = true → w.Alike settings a b) →
      ∀ l ∈ w.reach settings root raw id, t.spelling l ∈ t.visits.map (·.target) ∧
        Loading.tree w settings (t.spelling l) = Loading.tree w settings l) := by
  intro N t
  have hq : t.queue = [] := Loading.after_ended hfin
  have h : Loading.Invariant w settings root raw t := Loading.after_invariant w settings root raw N
  have hs : Loading.IsFound w settings root raw t := Loading.after_isFound w settings root raw N
  refine ⟨?_, ?_, ?_, ?_, ?_⟩
  · exact fun n hn => Loading.run_eq_after hq hn
  · exact loadReferences_eq_after hq
  · exact h.loads hq (h.mem_visits_iff hs hq)
  · exact h.loads_iff hs hq
  · exact fun halike l hl => h.alike hs hq halike hl

/-- Two files that refer to each other, and one of them to a file that is not there. -/
def World.circle : World :=
  let a := "[\x7b\"$ref\": \"/b.json\"\x7d, \x7b\"$ref\": \"missing.json\"\x7d]"
  let b := "[\x7b\"$ref\": \"a.json#/0\"\x7d]"
  ⟨[], [([Utf8.encode "a.json"], .file (Utf8.encode a)),
    ([Utf8.encode "b.json"], .file (Utf8.encode b))], .unreachable⟩

/-- A document that refers to both files. -/
def World.circleRoot : Json :=
  .arr [.obj [("$ref", .str "/a.json#/1")], .obj [("$ref", .str "/b.json")]]

theorem World.loads_reach_circle :
    (World.circle.reach .default .inline World.circleRoot id).Finite ∧
    World.circle.Loads .default .inline World.circleRoot
      (World.circle.reach .default .inline World.circleRoot id)
      (World.circle.loadReferences .default World.circleRoot .inline) := by
  let ps : List FilePath := [.ofString "/a.json", .ofString "/b.json", .ofString "/missing.json"]
  have hcloses : World.circle.closes .default .inline World.circleRoot ps = true := by
    decide +kernel
  have hdistinct : (ps.all fun p => ps.all fun q =>
      !(Location.file p == .file q) || decide (p = q)) = true := by decide +kernel
  have hfin := World.reach_finite hcloses
  obtain ⟨_, hbudget, _, hiff, _⟩ :=
    World.loads_reach World.circle .default .inline World.circleRoot hfin
  have hsmall : ps.length ≤ Loading.budget := by decide +kernel
  refine ⟨hfin, ?_⟩
  rw [hbudget ((World.ncard_reach_le hcloses).trans hsmall)]
  refine hiff.2 fun a ha b hb heq => ?_
  obtain ⟨p, hp, rfl⟩ := List.mem_map.1 (World.reach_subset hcloses a ha)
  obtain ⟨q, hq, rfl⟩ := List.mem_map.1 (World.reach_subset hcloses b hb)
  have hpq := List.all_eq_true.1 (List.all_eq_true.1 hdistinct p hp) q hq
  rw [heq] at hpq
  exact congrArg Location.file (of_decide_eq_true hpq)

/-- A file that refers to a file that is not there. -/
def World.aliased : World :=
  ⟨[], [([Utf8.encode "b.json"], .file (Utf8.encode "[\x7b\"$ref\": \"missing.json\"\x7d]"))],
    .unreachable⟩

/-- A document that refers to the file in two spellings; with a slash at the end it is no file. -/
def World.aliasedRoot : Json :=
  .arr [.obj [("$ref", .str "file:///b.json/")], .obj [("$ref", .str "/b.json")]]

/-- Of two spellings of one location only the first is visited: the file is there, and is neither
loaded nor told of. -/
theorem World.not_loads_reach_aliased :
    (World.aliased.reach .default .inline World.aliasedRoot id).Finite ∧
    (∃ l, l ∈ World.aliased.reach .default .inline World.aliasedRoot id ∧
      (Loading.tree World.aliased .default l).isOk = true ∧
      (World.aliased.loadReferences .default World.aliasedRoot .inline).store.find? l = none) ∧
    ¬ World.aliased.Loads .default .inline World.aliasedRoot
      (World.aliased.reach .default .inline World.aliasedRoot id)
      (World.aliased.loadReferences .default World.aliasedRoot .inline) := by
  have hcloses : World.aliased.closes .default .inline World.aliasedRoot
      [.ofString "/b.json/", .ofString "/b.json", .ofString "/missing.json"] = true := by
    decide +kernel
  have hq : (Loading.after World.aliased .default .inline World.aliasedRoot 1).queue = [] :=
    List.isEmpty_iff.1 (by decide +kernel)
  have hstore : (World.aliased.loadReferences .default World.aliasedRoot .inline).store = [] := by
    have hbudget : 1 ≤ Loading.budget := by decide +kernel
    rw [World.loadReferences_eq_after hq hbudget]
    exact List.isEmpty_iff.1 (by decide +kernel)
  have hreach : Location.file (.ofString "/b.json") ∈
      World.aliased.reach .default .inline World.aliasedRoot id := by
    have hcited : ((Reference.targets .inline World.aliasedRoot).any
        (Location.isAt (.ofString "/b.json"))) = true := by decide +kernel
    obtain ⟨l, hl, hat⟩ := List.any_eq_true.1 hcited
    rw [Location.isAt_iff.1 hat] at hl
    exact World.Reaches.root (Reference.mem_targets_iff.1 hl) rfl
  have htree : (Loading.tree World.aliased .default (.file (.ofString "/b.json"))).isOk = true := by
    decide +kernel
  refine ⟨World.reach_finite hcloses, ⟨_, hreach, htree, ?_⟩, fun hloads => ?_⟩
  · rw [hstore]
    rfl
  · cases hv : Loading.tree World.aliased .default (.file (.ofString "/b.json")) with
    | error e =>
      rw [hv] at htree
      cases htree
    | ok v =>
      have hmem := (hloads.stored _ v).2 ⟨hreach, hv⟩
      rw [hstore] at hmem
      cases hmem

end MessageContract
