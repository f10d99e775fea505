import MessageContract.Proofs.Reference.Reach
import MessageContract.Proofs.Reference.Stack

/-!
# One root document at two URLs

A root document is handled in lockstep at two URLs against which references are resolved alike
(`Url.Agree`), as long as no reference leads to one of the two. The worklist visits the same
locations and comes to the same store (`World.loadReferences_twin`), and inlining gives the same
value and the same findings (`Sources.Twin.inline`): a location is the root document's own in both
runs or in neither (`Location.Twin`), which is all that a comparison of locations tells. What is
found differs in the URL that a reference was resolved against, and in nothing else
(`Diagnostic.Alike`).
-/

namespace MessageContract

variable {u u' : Url}

/-! ## Locations -/

/-- References are resolved alike against the URLs. -/
def Url.Agree (u u' : Url) : Prop := ∀ reference, u.join reference = u'.join reference

namespace Location

/-- The location is neither of the URLs. -/
structure IsOther (u u' : Url) (l : Location) : Prop where
  ne : (l == .url u) = false
  ne' : (l == .url u') = false

/-- Locations in the two runs: both the root document's, or the same one and that of another
document. -/
inductive Twin (u u' : Url) : Location → Location → Prop
  | root : Twin u u' (.url u) (.url u')
  | other {l : Location} (h : IsOther u u' l) : Twin u u' l l

variable {a a' b b' : Location}

/-- The two runs compare locations alike. -/
theorem Twin.beq (ha : Twin u u' a a') (hb : Twin u u' b b') : (a == b) = (a' == b') := by
  cases ha with
  | root =>
    cases hb with
    | root => rw [BEq.refl, BEq.refl]
    | other hb => rw [BEq.symm_false hb.ne, BEq.symm_false hb.ne']
  | other ha =>
    cases hb with
    | root => rw [ha.ne, ha.ne']
    | other _ => rfl

/-- What is told of a reference is told of it in both runs, with the same source. -/
theorem Twin.finding (h : Twin u u' a a') (path : List String) (message : String) :
    Reference.finding (.url u') a' path message = Reference.finding (.url u) a path message := by
  cases h with
  | root => rw [Reference.finding_root, Reference.finding_root]
  | other hother => rw [Reference.finding, Reference.finding, hother.ne, hother.ne']

end Location

/-! ## Findings -/

/-- The same finding, but for the URL that a reference could not be resolved against. -/
inductive Diagnostic.Alike (u u' : Url) : Diagnostic → Diagnostic → Prop
  | same (d : Diagnostic) : Alike u u' d d
  | base (path : List String) (reference : String) (cause : UrlError) :
      Alike u u'
        (.error .invalidRef (Location.JoinError.message (.unresolvable reference u cause)) path)
        (.error .invalidRef (Location.JoinError.message (.unresolvable reference u' cause)) path)

namespace Diagnostic

variable {d d' : Diagnostic} {ds ds' : List Diagnostic}

theorem Alike.isError (h : Alike u u' d d') : d.isError = d'.isError := by
  cases h <;> rfl

theorem alike_refl (u u' : Url) (ds : List Diagnostic) : List.Forall₂ (Alike u u') ds ds :=
  List.forall₂_same.2 fun d _ => .same d

theorem any_isError_alike (h : List.Forall₂ (Alike u u') ds ds') :
    ds.any isError = ds'.any isError := by
  induction h with
  | nil => rfl
  | cons hd _ ih => rw [List.any_cons, List.any_cons, hd.isError, ih]

end Diagnostic

/-- A reference leads to the same location in both runs, or in both nowhere. -/
theorem Location.Twin.join {base base' : Location} (h : Twin u u' base base') (hu : u.Agree u')
    (reference : String) :
    (∃ target, base.join reference = .ok target ∧ base'.join reference = .ok target) ∨
    ∃ e e', base.join reference = .error e ∧ base'.join reference = .error e' ∧
      ∀ path, Diagnostic.Alike u u' (Reference.finding (.url u) base path e.message)
        (Reference.finding (.url u') base' path e'.message) := by
  cases h with
  | root =>
    unfold Location.join
    cases absolute? reference with
    | some l => exact Or.inl ⟨l, rfl, rfl⟩
    | none =>
      dsimp only
      rw [← hu reference]
      cases u.join reference with
      | ok v => exact Or.inl ⟨.url v, rfl, rfl⟩
      | error cause =>
        refine Or.inr ⟨_, _, rfl, rfl, fun path => ?_⟩
        rw [Reference.finding_root, Reference.finding_root]
        exact .base path reference cause
  | other hother =>
    cases hjoin : base.join reference with
    | ok target => exact Or.inl ⟨target, rfl, rfl⟩
    | error e =>
      refine Or.inr ⟨e, e, rfl, rfl, fun path => ?_⟩
      rw [(Twin.other hother).finding]
      exact .same _

theorem Url.Agree.symm (hu : u.Agree u') : u'.Agree u := fun reference => (hu reference).symm

/-- A document cites the same locations at both URLs. -/
theorem Url.Agree.cites (hu : u.Agree u') {document : Json} {target : Location}
    (h : Reference.Cites (.url u) document target) : Reference.Cites (.url u') document target := by
  obtain ⟨site, hsite, hx, hjoin⟩ := h
  refine ⟨site, hsite, hx, ?_⟩
  rcases Location.Twin.root.join hu (Reference.document site.reference) with
    ⟨target', hok, hok'⟩ | ⟨e, e', herror, _⟩
  · rw [hok']
    exact hok.symm.trans hjoin
  · rw [herror] at hjoin
    cases hjoin

/-! ## The worklist -/

/-- Locations that wait in the two runs. -/
structure Pending.Twin (u u' : Url) (p p' : Pending) : Prop where
  target : p'.target = p.target
  path : p'.path = p.path
  referrer : Location.Twin u u' p.referrer p'.referrer
  other : Location.IsOther u u' p.target

namespace Loading

variable {w : World} {settings : FetchSettings} {raw : Json} {s s' : Loading}
  {base base' : Location}

/-- The worklists of the two runs. -/
structure Twin (u u' : Url) (s s' : Loading) : Prop where
  seen : List.Forall₂ (Location.Twin u u') s.seen s'.seen
  queue : List.Forall₂ (Pending.Twin u u') s.queue s'.queue
  store : s'.store = s.store
  visits : s'.visits = s.visits
  findings : List.Forall₂ (Diagnostic.Alike u u') s.findings s'.findings

/-- Both runs start with the root document alone. -/
theorem twin_start (u u' : Url) : Twin u u' (start (.url u)) (start (.url u')) where
  seen := .cons .root .nil
  queue := .nil
  store := rfl
  visits := rfl
  findings := .nil

theorem Twin.any_seen (h : Twin u u' s s') {l : Location} (hl : Location.IsOther u u' l) :
    s.seen.any (· == l) = s'.seen.any (· == l) := by
  have hseen := h.seen
  revert hseen
  generalize s.seen = ls
  generalize s'.seen = ls'
  intro hseen
  induction hseen with
  | nil => rfl
  | cons hab _ ih => rw [List.any_cons, List.any_cons, hab.beq (.other hl), ih]

theorem Twin.note (h : Twin u u' s s') (hu : u.Agree u') (hbase : Location.Twin u u' base base')
    {site : Reference.Site}
    (hsite : ∀ target, Reference.IsExternal site.reference →
      base.join (Reference.document site.reference) = .ok target → Location.IsOther u u' target) :
    Twin u u' (Loading.note (.url u) base s site) (Loading.note (.url u') base' s' site) := by
  unfold Loading.note
  dsimp only
  by_cases hempty : (Reference.document site.reference).isEmpty = true
  · rwa [if_pos hempty, if_pos hempty]
  · rw [if_neg hempty, if_neg hempty]
    rcases hbase.join hu (Reference.document site.reference) with
      ⟨target, hjoin, hjoin'⟩ | ⟨e, e', hjoin, hjoin', halike⟩
    · have hother := hsite target (Bool.eq_false_iff.2 hempty) hjoin
      rw [hjoin, hjoin']
      dsimp only
      rw [← h.any_seen hother]
      split
      · exact h
      · exact { h with
          seen := .cons (.other hother) h.seen
          queue := List.rel_append h.queue (.cons ⟨rfl, rfl, hbase, hother⟩ .nil) }
    · rw [hjoin, hjoin']
      exact { h with findings := List.rel_append h.findings (.cons (halike site.path) .nil) }

theorem Twin.noteAll (h : Twin u u' s s') (hu : u.Agree u')
    (hbase : Location.Twin u u' base base') {document : Json}
    (hdocument : ∀ target, Reference.Cites base document target → Location.IsOther u u' target) :
    Twin u u' (s.noteAll (.url u) base document) (s'.noteAll (.url u') base' document) := by
  have hsites : ∀ site ∈ Reference.sites document, ∀ target,
      Reference.IsExternal site.reference →
      base.join (Reference.document site.reference) = .ok target →
        Location.IsOther u u' target :=
    fun site hsite target hx hjoin => hdocument target ⟨site, hsite, hx, hjoin⟩
  unfold Loading.noteAll
  revert hsites
  generalize Reference.sites document = sites
  intro hsites
  induction sites generalizing s s' with
  | nil => exact h
  | cons site rest ih =>
    exact ih (h.note hu hbase (hsites site List.mem_cons_self))
      fun site' hsite' => hsites site' (List.mem_cons_of_mem _ hsite')

theorem noteAll_store (root base : Location) (s : Loading) (document : Json) :
    (s.noteAll root base document).store = s.store := by
  obtain ⟨added, heq, _⟩ := foldl_note_spec root base (Reference.sites document) s
  rw [noteAll, heq]
  rfl

theorem store_subset_step (root : Location) : s.store ⊆ (step w settings root s).store := by
  cases hq : s.queue with
  | nil => exact (step_of_nil hq).symm ▸ List.Subset.refl _
  | cons p rest =>
    simp only [step, hq, load]
    split
    · rw [noteAll_store]
      exact List.subset_append_left _ _
    · exact List.Subset.refl _

/-- A step of the one run is a step of the other, if what it loads does not lead to the root
document. -/
theorem Twin.step (h : Twin u u' s s') (hu : u.Agree u')
    (hstore : ∀ d ∈ (Loading.step w settings (.url u) s).store, ∀ target,
      Reference.Cites d.1 d.2 target → Location.IsOther u u' target) :
    Twin u u' (Loading.step w settings (.url u) s) (Loading.step w settings (.url u') s') := by
  have hqueue := h.queue
  cases hq : s.queue with
  | nil =>
    rw [hq, List.forall₂_nil_left_iff] at hqueue
    rwa [step_of_nil hq, step_of_nil hqueue]
  | cons p rest =>
    rw [hq] at hqueue
    obtain ⟨p', rest', hp, hrest, hq'⟩ := List.forall₂_cons_left_iff.1 hqueue
    simp only [Loading.step, hq, hq', load, hp.target] at hstore ⊢
    split
    · next v hv =>
      simp only [hv, noteAll_store] at hstore
      have hkept : Twin u u' (Loading.keep { s with queue := rest } p.target v)
          (Loading.keep { s' with queue := rest' } p.target v) :=
        { h with
          queue := hrest
          store := congrArg (· ++ [(p.target, v)]) h.store
          visits := congrArg (· ++ [Visit.mk p.target true]) h.visits }
      exact hkept.noteAll hu (.other hp.other)
        (hstore (p.target, v) (List.mem_append_right _ List.mem_cons_self))
    · next reason _ =>
      have hfailure : failure (.url u') p' reason = failure (.url u) p reason := by
        rw [failure, failure, hp.target, hp.path, hp.referrer.finding]
      rw [hfailure]
      exact { h with
        queue := hrest
        visits := congrArg (· ++ [Visit.mk p.target false]) h.visits
        findings := List.rel_append h.findings (.cons (.same _) .nil) }

/-- The worklists of the two runs stay alike while nothing leads to the root document. -/
theorem twin_after (hu : u.Agree u') {n : Nat}
    (h : ∀ d ∈ (after w settings (.url u) raw n).documents (.url u) raw, ∀ target,
      Reference.Cites d.1 d.2 target → Location.IsOther u u' target) :
    Twin u u' (after w settings (.url u) raw n) (after w settings (.url u') raw n) := by
  induction n with
  | zero => exact (twin_start u u').noteAll hu .root (h (.url u, raw) List.mem_cons_self)
  | succ n ih =>
    rw [after_succ] at h
    rw [after_succ, after_succ]
    have hearlier := ih fun d hd => by
      rcases List.mem_cons.1 hd with rfl | hd
      · exact h _ List.mem_cons_self
      · exact h d (List.mem_cons_of_mem _ (store_subset_step _ hd))
    exact hearlier.step hu fun d hd => h d (List.mem_cons_of_mem _ hd)

theorem Twin.giveUp (h : Twin u u' s s') :
    Twin u u' (Loading.giveUp (.url u) s) (Loading.giveUp (.url u') s') where
  seen := h.seen
  queue := .nil
  store := h.store
  visits := h.visits
  findings := by
    refine List.rel_append h.findings ?_
    rw [List.forall₂_map_left_iff, List.forall₂_map_right_iff]
    refine h.queue.imp fun p p' hp => ?_
    rw [failure, failure, hp.target, hp.path, hp.referrer.finding]
    exact .same _

end Loading

/-- Where no reference that is seen leads to the root document, the same is loaded in both runs. -/
theorem World.loadReferences_twin {w : World} {settings : FetchSettings} {raw : Json}
    (hu : u.Agree u')
    (h : ∀ d ∈ (w.loadReferences settings raw (.url u)).documents (.url u) raw, ∀ target,
      Reference.Cites d.1 d.2 target → Location.IsOther u u' target) :
    Loading.Twin u u' (w.loadReferences settings raw (.url u))
      (w.loadReferences settings raw (.url u')) := by
  obtain ⟨n, hn⟩ := w.exists_loadReferences_eq_after settings raw
  rw [hn (.url u)] at h ⊢
  rw [hn (.url u')]
  exact (Loading.twin_after hu h).giveUp

/-! ## Inlining -/

/-- Values under inlining in the two runs. -/
structure Target.Twin (u u' : Url) (t t' : Target) : Prop where
  location : Location.Twin u u' t.location t'.location
  pointer : t'.pointer = t.pointer

theorem Target.Twin.beq {a a' b b' : Target} (ha : Twin u u' a a') (hb : Twin u u' b b') :
    (a == b) = (a' == b') := by
  show (a.location == b.location && a.pointer == b.pointer) =
    (a'.location == b'.location && a'.pointer == b'.pointer)
  rw [ha.location.beq hb.location, ha.pointer, hb.pointer]

theorem Target.Twin.any {stack stack' : List Target} {t t' : Target}
    (h : List.Forall₂ (Twin u u') stack stack') (ht : Twin u u' t t') :
    stack.any (· == t) = stack'.any (· == t') := by
  induction h with
  | nil => rfl
  | cons hab _ ih => rw [List.any_cons, List.any_cons, hab.beq ht, ih]

namespace Sources

/-- A reference at a point that inlining gets to leads to a location. -/
def Follows (s : Sources) (target : Location) : Prop :=
  ∃ p r, s.Meets s.start p ∧ p.value.reference? = some r ∧ Reference.IsExternal r ∧
    p.base.join (Reference.document r) = .ok target

/-- The documents of the two runs: nothing that is stored, and nothing that inlining follows, is at
one of the URLs. -/
structure Twin (u u' : Url) (s s' : Sources) : Prop where
  agree : u.Agree u'
  root : s'.root = s.root
  store : s'.store = s.store
  location : s.location = .url u
  location' : s'.location = .url u'
  stored : ∀ d ∈ s.store, Location.IsOther u u' d.1
  followed : ∀ target, s.Follows target → Location.IsOther u u' target

/-- What a reference comes to in the two runs. -/
inductive Encounter.Twin (u u' : Url) : Encounter → Encounter → Prop
  | unfound : Twin u u' .unfound .unfound
  | refused (message : String) : Twin u u' (.refused message) (.refused message)
  | kept (pointer : String) : Twin u u' (.kept pointer) (.kept pointer)
  | entered {t t' : Target} (h : Target.Twin u u' t t') (v : Json) :
      Twin u u' (.entered t v) (.entered t' v)

variable {s s' : Sources} {base base' : Location} {stack stack' : List Target} {r : String}

theorem Twin.beq_location (h : Twin u u' s s') {l l' : Location} (hl : Location.Twin u u' l l') :
    (l == s.location) = (l' == s'.location) := by
  rw [h.location, h.location']
  exact hl.beq .root

/-- At a location stands the same document in both runs. -/
theorem Twin.lookup (h : Twin u u' s s') (hbase : Location.Twin u u' base base') :
    Option.Rel (fun d d' => Location.Twin u u' d.1 d'.1 ∧ d'.2 = d.2)
      (s.find? base "") (s'.find? base' "") := by
  rw [find?_empty, find?_empty, ← h.beq_location hbase, h.location, h.location', h.root, h.store]
  cases hbase with
  | root =>
    rw [if_pos (BEq.refl _), if_pos (BEq.refl _)]
    exact .some ⟨.root, rfl⟩
  | other hother =>
    rw [hother.ne, if_neg Bool.false_ne_true, if_neg Bool.false_ne_true]
    cases hfind : s.store.find? base with
    | none => exact .none
    | some d => exact .some ⟨.other (h.stored d (List.mem_of_find?_eq_some hfind)), rfl⟩

theorem find?_of_ok {document : String} {l : Location} (hne : document.isEmpty = false)
    (hjoin : base.join document = .ok l) : s.find? base document = s.find? l "" := by
  rw [find?_empty]
  unfold find?
  rw [hne, hjoin]
  rfl

theorem find?_of_error {document : String} {e : Location.JoinError}
    (hne : document.isEmpty = false) (hjoin : base.join document = .error e) :
    s.find? base document = none := by
  unfold find?
  rw [hne, hjoin]
  rfl

/-- A reference that leads to neither URL finds the same document in both runs. -/
theorem Twin.find? (h : Twin u u' s s') (hbase : Location.Twin u u' base base')
    (hr : ∀ target, Reference.IsExternal r → base.join (Reference.document r) = .ok target →
      Location.IsOther u u' target) :
    Option.Rel (fun d d' => Location.Twin u u' d.1 d'.1 ∧ d'.2 = d.2)
      (s.find? base (Reference.document r)) (s'.find? base' (Reference.document r)) := by
  cases hempty : (Reference.document r).isEmpty with
  | true =>
    rw [find?_congr_of_isEmpty hempty, find?_congr_of_isEmpty hempty]
    exact h.lookup hbase
  | false =>
    rcases hbase.join h.agree (Reference.document r) with
      ⟨target, hjoin, hjoin'⟩ | ⟨e, e', hjoin, hjoin', _⟩
    · rw [find?_of_ok hempty hjoin, find?_of_ok hempty hjoin']
      exact h.lookup (.other (hr target hempty hjoin))
    · rw [find?_of_error hempty hjoin, find?_of_error hempty hjoin']
      exact .none

theorem Twin.encounter (h : Twin u u' s s') (hstack : List.Forall₂ (Target.Twin u u') stack stack')
    (hbase : Location.Twin u u' base base')
    (hr : ∀ target, Reference.IsExternal r → base.join (Reference.document r) = .ok target →
      Location.IsOther u u' target) :
    Encounter.Twin u u' (s.encounter stack base r) (s'.encounter stack' base' r) := by
  have hfind := h.find? hbase hr
  unfold Sources.encounter target?
  cases hd : s.find? base (Reference.document r) with
  | none =>
    rw [hd] at hfind
    cases hd' : s'.find? base' (Reference.document r) with
    | none => exact .unfound
    | some d' =>
      rw [hd'] at hfind
      cases hfind
  | some d =>
    rw [hd] at hfind
    cases hd' : s'.find? base' (Reference.document r) with
    | none =>
      rw [hd'] at hfind
      cases hfind
    | some d' =>
      rw [hd'] at hfind
      obtain ⟨l, v⟩ := d
      obtain ⟨l', v'⟩ := d'
      cases hfind with
      | some hdd =>
        obtain ⟨hl, rfl⟩ := hdd
        dsimp only [Option.bind_some]
        cases v'.pointer? (Reference.fragment r) with
        | none => exact .refused _
        | some x =>
          have htarget : Target.Twin u u' ⟨l, Reference.fragment r⟩ ⟨l', Reference.fragment r⟩ :=
            ⟨hl, rfl⟩
          dsimp only [Option.map_some]
          rw [Target.Twin.any hstack htarget, h.beq_location hl]
          split
          · split
            · exact .kept _
            · exact .refused _
          · exact .entered htarget x

theorem Twin.refuse (h : Twin u u' s s') (hbase : Location.Twin u u' base base')
    (path : List String) (holder : Json) (message : String) :
    s'.refuse base' path holder message = s.refuse base path holder message := by
  rw [Sources.refuse, Sources.refuse, h.location, h.location', hbase.finding]

theorem Twin.replacement (h : Twin u u' s s') (hbase : Location.Twin u u' base base')
    {e e' : Encounter} (he : Encounter.Twin u u' e e') {enter enter' : Target → Json → Inlined Json}
    (henter : ∀ t t' v, e = .entered t v → Target.Twin u u' t t' → enter t v = enter' t' v)
    (path : List String) (holder : Json) :
    s.replacement base path holder enter e = s'.replacement base' path holder enter' e' := by
  cases he with
  | unfound => rfl
  | refused message => exact (h.refuse hbase path holder message).symm
  | kept pointer => rfl
  | entered ht v => exact henter _ _ v rfl ht

/-- What takes the place of a reference that inlining gets to is the same in both runs. -/
theorem Twin.follow (h : Twin u u' s s') {fuel : Nat}
    (hstack : List.Forall₂ (Target.Twin u u') stack stack') (hbase : Location.Twin u u' base base')
    {holder : Json} (hmet : s.Meets s.start ⟨stack, base, holder⟩)
    (hr : holder.reference? = some r) (path : List String) :
    s.follow fuel stack base path r holder = s'.follow fuel stack' base' path r holder := by
  induction fuel generalizing stack stack' base base' holder r path with
  | zero =>
    have hencounter := h.encounter hstack hbase fun target hx hjoin =>
      h.followed target ⟨_, r, hmet, hr, hx, hjoin⟩
    rw [follow_eq, follow_eq]
    exact h.replacement hbase hencounter (fun _ _ _ _ _ => (h.refuse hbase _ _ _).symm) path holder
  | succ n ih =>
    have hencounter := h.encounter hstack hbase fun target hx hjoin =>
      h.followed target ⟨_, r, hmet, hr, hx, hjoin⟩
    rw [follow_eq, follow_eq]
    refine h.replacement hbase hencounter (fun t t' v hentered ht => ?_) path holder
    -- what is entered is met in turn, and so is all that is seen from it
    refine walk_congr_of_sees (fun x r' hsees hr' path' => ?_) path
    have henters := enters_of_encounter (p := ⟨stack, base, holder⟩) hr hentered
    have hnext := Relation.ReflTransGen.tail hmet (.enter henters)
    exact ih (.cons ht hstack) ht.location (hnext.trans (meets_sees hsees)) hr' path'

/-- The root document is inlined alike in both runs. -/
theorem Twin.inline (h : Twin u u' s s') : s.inline = s'.inline := by
  have hbound : s'.bound = s.bound := by rw [bound, bound, h.root, h.store]
  have hbase : Location.Twin u u' s.location s'.location := by
    rw [h.location, h.location']
    exact .root
  rw [Sources.inline, Sources.inline, hbound, h.root]
  refine walk_congr_of_sees (fun x r hsees hr path => ?_) []
  exact h.follow .nil hbase (meets_sees (p := s.start) hsees) hr path

end Sources

end MessageContract
