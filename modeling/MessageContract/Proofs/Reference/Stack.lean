import Mathlib.Data.List.Perm.Subperm
import Mathlib.Data.Set.Finite.List
import MessageContract.Proofs.Reference.Point

/-!
# The targets under way

No target is under way twice, and each is named by a reference that stands in one of the documents
(`Sources.Sound`, preserved by `Step.sound`). The references are finite in number, so there is always
room for one more target (`Sound.length_lt`): the fuel of `Sources.follow` is never used up
(`Sound.fuel`). What is found at a point that inlining gets to is found in the end
(`Meets.findings_subset`), and nothing else is (`exists_refused_of_mem_inline`).
-/

namespace MessageContract
namespace Json

mutual

/-- All values in a value, itself first. -/
def parts : Json → List Json
  | .arr items => .arr items :: partsOfItems items
  | .obj ms => .obj ms :: partsOfMembers ms
  | v => [v]

def partsOfItems : List Json → List Json
  | [] => []
  | v :: rest => v.parts ++ partsOfItems rest

def partsOfMembers : List (String × Json) → List Json
  | [] => []
  | (_, v) :: rest => v.parts ++ partsOfMembers rest

end

mutual

theorem length_parts : ∀ v : Json, v.parts.length = v.count
  | .arr items => by rw [parts, count, List.length_cons, length_partsOfItems items]
  | .obj ms => by rw [parts, count, List.length_cons, length_partsOfMembers ms]
  | .null | .bool _ | .num _ | .str _ => rfl

theorem length_partsOfItems : ∀ items, (partsOfItems items).length = countItems items
  | [] => rfl
  | v :: rest => by
    rw [partsOfItems, countItems, List.length_append, length_parts v, length_partsOfItems rest]

theorem length_partsOfMembers : ∀ ms, (partsOfMembers ms).length = countMembers ms
  | [] => rfl
  | (_, v) :: rest => by
    rw [partsOfMembers, countMembers, List.length_append, length_parts v,
      length_partsOfMembers rest]

end

theorem mem_parts_self (v : Json) : v ∈ v.parts := by
  cases v <;> exact List.mem_cons_self

theorem parts_subset_of_mem_children {v w : Json} (h : w ∈ v.children) : w.parts ⊆ v.parts := by
  cases v with
  | arr items =>
    have hitems : w ∈ items := h
    refine List.subset_cons_of_subset _ ?_
    clear h
    induction items with
    | nil => cases hitems
    | cons u items ih =>
      rcases List.mem_cons.1 hitems with rfl | hitems
      · exact List.subset_append_left _ _
      · exact List.subset_append_of_subset_right _ (ih hitems)
  | obj ms =>
    obtain ⟨m, hm, rfl⟩ := List.mem_map.1 h
    refine List.subset_cons_of_subset _ ?_
    clear h
    induction ms with
    | nil => cases hm
    | cons n ms ih =>
      rcases List.mem_cons.1 hm with rfl | hm
      · exact List.subset_append_left _ _
      · exact List.subset_append_of_subset_right _ (ih hm)
  | _ => cases h

/-- The parts of a value are what stands in it. -/
theorem Holds.mem_parts {v w : Json} (h : v.Holds w) : w ∈ v.parts := by
  induction h using Relation.ReflTransGen.head_induction_on with
  | refl => exact mem_parts_self w
  | head hchild _ ih => exact parts_subset_of_mem_children hchild ih

end Json

instance : EquivBEq Target where
  rfl {t} := Bool.and_eq_true_iff.2 ⟨BEq.refl t.location, BEq.refl t.pointer⟩
  symm h :=
    have ⟨hlocation, hpointer⟩ := Bool.and_eq_true_iff.1 h
    Bool.and_eq_true_iff.2 ⟨BEq.symm hlocation, BEq.symm hpointer⟩
  trans h h' :=
    have ⟨hlocation, hpointer⟩ := Bool.and_eq_true_iff.1 h
    have ⟨hlocation', hpointer'⟩ := Bool.and_eq_true_iff.1 h'
    Bool.and_eq_true_iff.2 ⟨BEq.trans hlocation hlocation', BEq.trans hpointer hpointer'⟩

namespace Sources

variable (s : Sources)

/-- Some reference in the root document or a stored one names the target. -/
def IsNamed (t : Target) : Prop :=
  ∃ d ∈ s.documents, ∃ h r v, d.2.Holds h ∧ h.reference? = some r ∧
    s.target? d.1 r = some (t, v)

/-- What the references in a document name. -/
def namedIn (d : Location × Json) : List Target :=
  d.2.parts.filterMap fun h => h.reference?.bind fun r => (s.target? d.1 r).map (·.1)

/-- The targets of all references. -/
def named : List Target := s.documents.flatMap s.namedIn

variable {s}

theorem IsNamed.mem_named {t : Target} (h : s.IsNamed t) : t ∈ s.named := by
  obtain ⟨d, hd, h, r, v, hholds, hr, ht⟩ := h
  refine List.mem_flatMap.2 ⟨d, hd, List.mem_filterMap.2 ⟨h, hholds.mem_parts, ?_⟩⟩
  rw [hr, Option.bind_some, ht]
  rfl

/-- References name finitely many targets. -/
theorem finite_isNamed (s : Sources) : {t | s.IsNamed t}.Finite :=
  s.named.finite_toSet.subset fun _ => IsNamed.mem_named

theorem length_namedIn_le (d : Location × Json) : (s.namedIn d).length ≤ d.2.count := by
  rw [← Json.length_parts]
  exact List.length_filterMap_le _ _

theorem length_named_le (s : Sources) : s.named.length ≤ s.bound := by
  -- counting a list of documents from any number on
  have hfold : ∀ (ds : Documents) (n : Nat), n + (ds.flatMap s.namedIn).length ≤
      ds.foldl (fun n d => n + d.2.count) n := by
    intro ds
    induction ds with
    | nil => exact fun n => le_rfl
    | cons d ds ih =>
      intro n
      rw [List.flatMap_cons, List.length_append, List.foldl_cons]
      have := length_namedIn_le (s := s) d
      have := ih (n + d.2.count)
      omega
  have hroot := length_namedIn_le (s := s) (s.location, s.root)
  have hstore := hfold s.store s.root.count
  rw [named, documents, List.flatMap_cons, List.length_append]
  exact (Nat.add_le_add_right hroot _).trans hstore

variable (s) in
/-- What holds of every point that inlining gets to. -/
structure Sound (p : Point) : Prop where
  /-- No target is under way twice. -/
  distinct : p.stack.Pairwise fun t t' => (t == t') = false
  /-- References name what is under way. -/
  named : ∀ t ∈ p.stack, s.IsNamed t
  /-- The value at hand stands in its document. -/
  stands : s.Stands p

theorem sound_start (s : Sources) : s.Sound s.start where
  distinct := List.Pairwise.nil
  named t ht := by cases ht
  stands := stands_start s

theorem Enters.isNamed {p q : Point} (h : s.Enters p q) (hp : s.Stands p) :
    ∀ t ∈ q.stack, t ∈ p.stack ∨ s.IsNamed t := by
  obtain ⟨hr, ht, _⟩ := h
  obtain ⟨d, hd, hbase, hholds⟩ := hp
  intro t' ht'
  rcases List.mem_cons.1 ht' with rfl | ht'
  · exact Or.inr ⟨d, hd, p.value, _, _, hholds, hr, hbase ▸ ht⟩
  · exact Or.inl ht'

theorem Enters.sound {p q : Point} (h : s.Enters p q) (hp : s.Sound p) : s.Sound q where
  distinct := by
    obtain ⟨_, _, hfresh⟩ := h
    refine List.Pairwise.cons (fun t' ht' => ?_) hp.distinct
    exact BEq.symm_false (Bool.eq_false_iff.2 (List.any_eq_false.1 hfresh t' ht'))
  named t ht := by
    rcases h.isNamed hp.stands t ht with ht | ht
    · exact hp.named t ht
    · exact ht
  stands := (Step.enter h).stands hp.stands

theorem Step.sound {p q : Point} (h : s.Step p q) (hp : s.Sound p) : s.Sound q := by
  have hstands := h.stands hp.stands
  cases h with
  | part _ _ => exact ⟨hp.distinct, hp.named, hstands⟩
  | enter he => exact he.sound hp

theorem Meets.sound {p q : Point} (h : s.Meets p q) (hp : s.Sound p) : s.Sound q := by
  induction h with
  | refl => exact hp
  | tail _ hstep ih => exact hstep.sound ih

/-- There are no more targets under way than references. -/
theorem Sound.length_le {p : Point} (h : s.Sound p) : p.stack.length ≤ s.bound := by
  have hnodup : p.stack.Nodup := h.distinct.imp ne_of_beq_false
  have hsubperm := hnodup.subperm fun t ht => (h.named t ht).mem_named
  exact hsubperm.length_le.trans (length_named_le s)

theorem Sound.length_lt {p q : Point} (h : s.Sound p) (he : s.Enters p q) :
    p.stack.length < s.bound := by
  have hle := (he.sound h).length_le
  obtain ⟨_, _, _⟩ := he
  exact hle

/-- Where a reference is entered there is fuel left. -/
theorem Sound.fuel {p q : Point} (h : s.Sound p) (he : s.Enters p q) {fuel : Nat}
    (hfuel : s.bound ≤ fuel + p.stack.length) :
    ∃ n, fuel = n + 1 ∧ s.bound ≤ n + q.stack.length := by
  have hlt := h.length_lt he
  obtain ⟨_, _, _⟩ := he
  refine ⟨fuel - 1, by omega, ?_⟩
  rw [List.length_cons]
  omega

/-! ## What becomes of a reference -/

/-- What comes of a reference. -/
inductive Encounter
  | unfound
  | refused (message : String)
  | kept (pointer : String)
  | entered (target : Target) (value : Json)

/-- What is told of a reference that finds a document but no value in it. -/
def complaint (reference : String) : String :=
  let pointer := Reference.fragment reference
  if !pointer.isEmpty && pointer.toList.head? != some '/' then
    "unsupported fragment in '" ++ reference ++ "': only JSON pointers are resolved"
  else "'" ++ reference ++ "' does not point to a value"

variable (s) in
/-- What comes of a reference in the document at `base` while the targets in `stack` are under
way. -/
def encounter (stack : List Target) (base : Location) (reference : String) : Encounter :=
  match s.target? base reference with
  | some (t, v) =>
    if stack.any (· == t) then
      if t.location == s.location then .kept t.pointer
      else .refused ("circular reference '" ++ reference ++ "' inside a referenced document")
    else .entered t v
  | none =>
    match s.find? base (Reference.document reference) with
    | none => .unfound
    | some _ => .refused (complaint reference)

variable (s) in
/-- What takes the place of a reference. -/
def replacement (base : Location) (path : List String) (holder : Json)
    (enter : Target → Json → Inlined Json) : Encounter → Inlined Json
  | .unfound => ⟨holder, []⟩
  | .refused message => s.refuse base path holder message
  | .kept pointer => ⟨backEdge pointer holder, []⟩
  | .entered t v => enter t v

theorem pointer?_eq_none {document : Json} {pointer : String}
    (h : (!pointer.isEmpty && pointer.toList.head? != some '/') = true) :
    document.pointer? pointer = none := by
  obtain ⟨hne, hhead⟩ := Bool.and_eq_true_iff.1 h
  have hsegments : Pointer.segments? pointer.toList = none := by
    unfold Pointer.segments?
    split
    · next hnil => simp [String.toList_eq_nil_iff.1 hnil] at hne
    · next hslash => simp [hslash] at hhead
    · rfl
  rw [Json.pointer?, hsegments, Option.bind_none]

theorem meet_eq (stack : List Target) (base : Location) (path : List String) (reference : String)
    (holder : Json) (enter : Target → Json → Inlined Json) :
    s.meet stack base path reference holder enter =
      s.replacement base path holder enter (s.encounter stack base reference) := by
  unfold meet encounter target?
  split
  · next hnone => rw [hnone, Option.bind_none]; rfl
  · next location document hfind =>
    rw [hfind, Option.bind_some]
    dsimp only
    split
    · next hfragment =>
      rw [pointer?_eq_none hfragment]
      simp only [Option.map_none, replacement, complaint, if_pos hfragment]
    · next hfragment =>
      cases document.pointer? (Reference.fragment reference) with
      | none => simp only [Option.map_none, replacement, complaint, if_neg hfragment]
      | some v =>
        dsimp only [Option.map_some]
        split
        · split
          · rfl
          · rfl
        · rfl

theorem encounter_of_enters {p : Point} {r : String} {t : Target} {v : Json}
    (ht : s.target? p.base r = some (t, v)) (hfresh : p.stack.any (· == t) = false) :
    s.encounter p.stack p.base r = .entered t v := by
  simp [encounter, ht, hfresh]

theorem enters_of_encounter {p : Point} {r : String} {t : Target} {v : Json}
    (hr : p.value.reference? = some r) (h : s.encounter p.stack p.base r = .entered t v) :
    s.Enters p ⟨t :: p.stack, t.location, v⟩ := by
  unfold encounter at h
  split at h
  · next htarget =>
    split at h
    · split at h <;> cases h
    · next hfresh =>
      cases h
      exact ⟨hr, htarget, Bool.eq_false_iff.2 hfresh⟩
  · split at h <;> cases h

/-- A circle that does not close in the root document is refused. -/
theorem encounter_circular {stack : List Target} {base : Location} {r : String} {t : Target}
    {v : Json} (ht : s.target? base r = some (t, v)) (hany : stack.any (· == t) = true)
    (hroot : (t.location == s.location) = false) :
    s.encounter stack base r =
      .refused ("circular reference '" ++ r ++ "' inside a referenced document") := by
  simp [encounter, ht, hany, hroot]

theorem follow_eq (fuel : Nat) (stack : List Target) (base : Location) (path : List String)
    (r : String) (holder : Json) :
    s.follow fuel stack base path r holder =
      s.replacement base path holder
        (match fuel with
          | 0 => fun _ _ => s.refuse base path holder ("'" ++ r ++ "' leads too far")
          | n + 1 => fun t v => walk (s.follow n (t :: stack) t.location) path v)
        (s.encounter stack base r) := by
  cases fuel with
  | zero => exact meet_eq stack base path r holder _
  | succ n => exact meet_eq stack base path r holder _

theorem walk_reference {f : Follow} {path : List String} {v : Json} {r : String}
    (hr : v.reference? = some r) : walk f path v = f path r v := by
  obtain ⟨ms, rfl⟩ := reference?_obj hr
  rw [walk, hr]

/-- What takes the place of a reference that is entered. -/
theorem Enters.walk_eq {p q : Point} (h : s.Enters p q) (n : Nat) (path : List String) :
    walk (s.follow (n + 1) p.stack p.base) path p.value =
      walk (s.follow n q.stack q.base) path q.value := by
  obtain ⟨hr, ht, hfresh⟩ := h
  rw [walk_reference hr, follow_eq, encounter_of_enters ht hfresh]
  rfl

/-! ## Findings on the way -/

theorem exists_walk_subset (f : Follow) (path : List String) {v w : Json}
    (hr : v.reference? = none) (hw : w ∈ v.children) :
    ∃ path', (walk f path' w).findings ⊆ (walk f path v).findings := by
  cases v with
  | arr items =>
    have hitems : w ∈ items := hw
    rw [walk]
    show ∃ path', _ ⊆ (walkItems f path 0 items).findings
    generalize 0 = index
    clear hr hw
    induction items generalizing index with
    | nil => cases hitems
    | cons u items ih =>
      rcases List.mem_cons.1 hitems with rfl | hitems
      · exact ⟨_, List.subset_append_left _ _⟩
      · obtain ⟨path', hsub⟩ := ih hitems (index + 1)
        exact ⟨path', List.subset_append_of_subset_right _ hsub⟩
  | obj ms =>
    obtain ⟨m, hm, rfl⟩ := List.mem_map.1 hw
    rw [walk, hr]
    show ∃ path', _ ⊆ (walkMembers f path ms).findings
    clear hr hw
    induction ms with
    | nil => cases hm
    | cons n ms ih =>
      rcases List.mem_cons.1 hm with rfl | hm
      · exact ⟨_, List.subset_append_left _ _⟩
      · obtain ⟨path', hsub⟩ := ih hm
        exact ⟨path', List.subset_append_of_subset_right _ hsub⟩
  | _ => cases hw

/-- What is found at a point that inlining gets to is found in the end. -/
theorem Meets.findings_subset {q : Point} (h : s.Meets s.start q) :
    ∃ fuel path, s.bound ≤ fuel + q.stack.length ∧
      (walk (s.follow fuel q.stack q.base) path q.value).findings ⊆ s.inline.findings := by
  induction h with
  | refl => exact ⟨s.bound, [], le_rfl, List.Subset.refl _⟩
  | @tail p q hp hstep ih =>
    obtain ⟨fuel, path, hfuel, hsub⟩ := ih
    cases hstep with
    | part hr hw =>
      obtain ⟨path', hpart⟩ := exists_walk_subset (s.follow fuel p.stack p.base) path hr hw
      exact ⟨fuel, path', hfuel, List.Subset.trans hpart hsub⟩
    | enter he =>
      obtain ⟨n, rfl, hn⟩ := (Meets.sound hp (sound_start s)).fuel he hfuel
      exact ⟨n, path, hn, he.walk_eq n path ▸ hsub⟩

/-- What is said of a reference is told in the end. -/
theorem Meets.refused {q : Point} (h : s.Meets s.start q) {r message : String}
    (hr : q.value.reference? = some r) (hmet : s.encounter q.stack q.base r = .refused message) :
    ∃ f ∈ s.inline.findings, f.message = message := by
  obtain ⟨fuel, path, _, hsub⟩ := h.findings_subset
  rw [walk_reference hr, follow_eq, hmet] at hsub
  exact ⟨_, hsub List.mem_cons_self, rfl⟩

/-- Whatever is found is said of a reference that inlining gets to. -/
theorem Sound.exists_refused {p : Point} (hp : s.Sound p) {fuel : Nat}
    (hfuel : s.bound ≤ fuel + p.stack.length) {path : List String} {f : Diagnostic}
    (hf : f ∈ (walk (s.follow fuel p.stack p.base) path p.value).findings) :
    ∃ q r path' message, s.Meets p q ∧ q.value.reference? = some r ∧
      s.encounter q.stack q.base r = .refused message ∧
      f = Reference.finding s.location q.base path' message := by
  induction fuel using Nat.strongRecOn generalizing p path with
  | _ fuel ih =>
    obtain ⟨path', h, r, hsees, hr, hfh⟩ := exists_sees_of_mem_walk hf
    have hq : s.Meets p { p with value := h } := meets_sees hsees
    rw [follow_eq] at hfh
    cases hmet : s.encounter p.stack p.base r with
    | unfound =>
      rw [hmet] at hfh
      cases hfh
    | refused message =>
      rw [hmet] at hfh
      exact ⟨_, r, path', message, hq, hr, hmet, List.mem_singleton.1 hfh⟩
    | kept pointer =>
      rw [hmet] at hfh
      cases hfh
    | entered t v =>
      have he : s.Enters { p with value := h } ⟨t :: p.stack, t.location, v⟩ :=
        enters_of_encounter hr hmet
      have hsound := hq.sound hp
      obtain ⟨n, rfl, hn⟩ := hsound.fuel he hfuel
      rw [hmet] at hfh
      obtain ⟨q, r', path'', message, hmeets, hrest⟩ :=
        ih n (Nat.lt_succ_self n) (he.sound hsound) hn hfh
      exact ⟨q, r', path'', message, Relation.ReflTransGen.trans hq (hmeets.enter he), hrest⟩

/-- What inlining finds is said of a reference that it gets to. -/
theorem exists_refused_of_mem_inline {f : Diagnostic} (hf : f ∈ s.inline.findings) :
    ∃ q r path message, s.Meets s.start q ∧ q.value.reference? = some r ∧
      s.encounter q.stack q.base r = .refused message ∧
      f = Reference.finding s.location q.base path message :=
  (sound_start s).exists_refused le_rfl hf

end Sources
end MessageContract
