import Mathlib.Data.List.Forall2
import MessageContract.Proofs.Reference.Nesting
import MessageContract.Reference.Inline

/-!
# What inlining does

`Inlines s fuel stack base v out`: inlining the value `v` of the document at `base`, while the
targets in `stack` are under way, finds nothing and gives `out`. Arrays and objects are inlined part
by part (`inlines_arr`, `inlines_obj`); a reference stays because its document is not there, stays
as an edge back into the root document, or gives way to what it names (`inlines_reference`). Every
fact about what comes out goes by `Inlines.induction`. A pointer that passes no reference object
leads to the same place before and after (`Inlines.follow`).
-/

namespace MessageContract
namespace Sources

variable (s : Sources)

/-- What a reference in the document at `base` names: where it stands, and the value there. -/
def target? (base : Location) (reference : String) : Option (Target × Json) :=
  (s.find? base (Reference.document reference)).bind fun d =>
    (d.2.pointer? (Reference.fragment reference)).map fun v =>
      (⟨d.1, Reference.fragment reference⟩, v)

/-- Inlining finds nothing and gives a value. -/
def Inlines (fuel : Nat) (stack : List Target) (base : Location) (v out : Json) : Prop :=
  ∃ path, walk (s.follow fuel stack base) path v = ⟨out, []⟩

variable {s}

/-! ## One reference -/

/-- A reference that gives no finding has no document, is an edge back, or is entered. -/
theorem meet_cases {stack : List Target} {base : Location} {path : List String}
    {reference : String} {holder out : Json} {enter : Target → Json → Inlined Json}
    (h : s.meet stack base path reference holder enter = ⟨out, []⟩) :
    (s.find? base (Reference.document reference) = none ∧ out = holder) ∨
    (∃ t v, s.target? base reference = some (t, v) ∧ stack.any (· == t) = true ∧
      (t.location == s.location) = true ∧ out = backEdge t.pointer holder) ∨
    (∃ t v, s.target? base reference = some (t, v) ∧ stack.any (· == t) = false ∧
      enter t v = ⟨out, []⟩) := by
  have hrefuse : ∀ message, s.refuse base path holder message ≠ ⟨out, []⟩ := by
    intro message heq
    exact absurd (congrArg Inlined.findings heq) (by simp [refuse])
  unfold meet at h
  split at h
  · next hnone =>
    exact Or.inl ⟨hnone, (congrArg Inlined.value h).symm⟩
  · next location document hfind =>
    dsimp only at h
    split at h
    · exact absurd h (hrefuse _)
    · split at h
      · exact absurd h (hrefuse _)
      · next v hv =>
        have htarget : s.target? base reference =
            some (⟨location, Reference.fragment reference⟩, v) := by
          rw [target?, hfind, Option.bind_some, hv, Option.map_some]
        split at h
        · next hany =>
          split at h
          · next hroot =>
            exact Or.inr (Or.inl ⟨_, v, htarget, hany, hroot, (congrArg Inlined.value h).symm⟩)
          · exact absurd h (hrefuse _)
        · next hany =>
          exact Or.inr (Or.inr ⟨_, v, htarget, Bool.eq_false_iff.2 hany, h⟩)

theorem follow_cases {fuel : Nat} {stack : List Target} {base : Location} {path : List String}
    {reference : String} {holder out : Json}
    (h : s.follow fuel stack base path reference holder = ⟨out, []⟩) :
    (s.find? base (Reference.document reference) = none ∧ out = holder) ∨
    (∃ t v, s.target? base reference = some (t, v) ∧ stack.any (· == t) = true ∧
      (t.location == s.location) = true ∧ out = backEdge t.pointer holder) ∨
    (∃ t v n, s.target? base reference = some (t, v) ∧ stack.any (· == t) = false ∧
      fuel = n + 1 ∧ walk (s.follow n (t :: stack) t.location) path v = ⟨out, []⟩) := by
  cases fuel with
  | zero =>
    rcases meet_cases h with hnone | hkept | ⟨t, v, _, _, henter⟩
    · exact Or.inl hnone
    · exact Or.inr (Or.inl hkept)
    · exact absurd (congrArg Inlined.findings henter) (by simp [refuse])
  | succ n =>
    rcases meet_cases h with hnone | hkept | ⟨t, v, ht, hany, henter⟩
    · exact Or.inl hnone
    · exact Or.inr (Or.inl hkept)
    · exact Or.inr (Or.inr ⟨t, v, n, ht, hany, rfl, henter⟩)

/-! ## Parts -/

theorem walkItems_clean {f : Follow} {path : List String} {index : Nat} {xs : List Json}
    (h : (walkItems f path index xs).findings = []) :
    List.Forall₂ (fun x y => ∃ p, walk f p x = ⟨y, []⟩) xs (walkItems f path index xs).value := by
  induction xs generalizing index with
  | nil => exact List.Forall₂.nil
  | cons x xs ih =>
    rw [walkItems] at h ⊢
    obtain ⟨hx, hxs⟩ := List.append_eq_nil_iff.1 h
    refine List.Forall₂.cons ⟨path ++ [toString index], ?_⟩ (ih hxs)
    rw [← hx]

theorem walkMembers_clean {f : Follow} {path : List String} {ms : Members}
    (h : (walkMembers f path ms).findings = []) :
    List.Forall₂ (fun m n => m.1 = n.1 ∧ ∃ p, walk f p m.2 = ⟨n.2, []⟩) ms
      (walkMembers f path ms).value := by
  induction ms with
  | nil => exact List.Forall₂.nil
  | cons m ms ih =>
    rw [walkMembers] at h ⊢
    obtain ⟨hm, hms⟩ := List.append_eq_nil_iff.1 h
    refine List.Forall₂.cons ⟨rfl, path ++ [m.1], ?_⟩ (ih hms)
    rw [← hm]

theorem inlines_arr {fuel : Nat} {stack : List Target} {base : Location} {xs : List Json}
    {out : Json} (h : s.Inlines fuel stack base (.arr xs) out) :
    ∃ ys, out = .arr ys ∧ List.Forall₂ (s.Inlines fuel stack base) xs ys := by
  obtain ⟨path, heq⟩ := h
  rw [walk] at heq
  have hclean := walkItems_clean (congrArg Inlined.findings heq)
  exact ⟨_, (congrArg Inlined.value heq).symm, hclean⟩

theorem inlines_obj {fuel : Nat} {stack : List Target} {base : Location} {ms : Members}
    {out : Json} (hr : (Json.obj ms).reference? = none)
    (h : s.Inlines fuel stack base (.obj ms) out) :
    ∃ ns, out = .obj ns ∧
      List.Forall₂ (fun m n => m.1 = n.1 ∧ s.Inlines fuel stack base m.2 n.2) ms ns := by
  obtain ⟨path, heq⟩ := h
  rw [walk, hr] at heq
  have hclean := walkMembers_clean (congrArg Inlined.findings heq)
  exact ⟨_, (congrArg Inlined.value heq).symm, hclean⟩

theorem inlines_leaf {fuel : Nat} {stack : List Target} {base : Location} {v out : Json}
    (hv : (∀ ms, v ≠ .obj ms) ∧ ∀ xs, v ≠ .arr xs) (h : s.Inlines fuel stack base v out) :
    out = v := by
  obtain ⟨path, heq⟩ := h
  cases v with
  | obj ms => exact absurd rfl (hv.1 ms)
  | arr xs => exact absurd rfl (hv.2 xs)
  | _ => exact (congrArg Inlined.value heq).symm

/-- What comes out as an object was a reference, or an object with the same names. -/
theorem Inlines.exists_members {fuel : Nat} {stack : List Target} {base : Location} {v : Json}
    {ns : Members} (h : s.Inlines fuel stack base v (.obj ns)) (hr : v.reference? = none) :
    ∃ ms, v = .obj ms ∧
      List.Forall₂ (fun m n => m.1 = n.1 ∧ s.Inlines fuel stack base m.2 n.2) ms ns := by
  cases v with
  | obj ms =>
    obtain ⟨ns', heq, hall⟩ := inlines_obj hr h
    exact ⟨ms, rfl, Json.obj.inj heq ▸ hall⟩
  | arr xs =>
    obtain ⟨ys, heq, _⟩ := inlines_arr h
    cases heq
  | _ => cases inlines_leaf ⟨by simp, by simp⟩ h

theorem reference?_obj {h : Json} {r : String} (hr : h.reference? = some r) :
    ∃ ms, h = .obj ms := by
  cases h with
  | obj ms => exact ⟨ms, rfl⟩
  | _ => simp [Json.reference?] at hr

theorem reference?_backEdge {h : Json} {r : String} (hr : h.reference? = some r)
    (pointer : String) : (backEdge pointer h).reference? = some ("#" ++ pointer) := by
  obtain ⟨ms, rfl⟩ := reference?_obj hr
  rw [backEdge, Json.reference?, Members.get?_insert_self]

theorem get?_of_reference? {ms : Members} {r : String} (h : (Json.obj ms).reference? = some r) :
    Members.get? ms "$ref" = some (.str r) := by
  rw [Json.reference?] at h
  split at h
  · next r' hr' => rw [hr', Option.some.inj h]
  · cases h

theorem inlines_reference {fuel : Nat} {stack : List Target} {base : Location} {h out : Json}
    {r : String} (hr : h.reference? = some r) (hi : s.Inlines fuel stack base h out) :
    (s.find? base (Reference.document r) = none ∧ out = h) ∨
    (∃ t v, s.target? base r = some (t, v) ∧ stack.any (· == t) = true ∧
      (t.location == s.location) = true ∧ out = backEdge t.pointer h) ∨
    (∃ t v n, s.target? base r = some (t, v) ∧ stack.any (· == t) = false ∧ fuel = n + 1 ∧
      s.Inlines n (t :: stack) t.location v out) := by
  obtain ⟨path, heq⟩ := hi
  obtain ⟨ms, rfl⟩ := reference?_obj hr
  rw [walk, hr] at heq
  rcases follow_cases heq with hnone | hkept | ⟨t, v, n, ht, hany, hfuel, hv⟩
  · exact Or.inl hnone
  · exact Or.inr (Or.inl hkept)
  · exact Or.inr (Or.inr ⟨t, v, n, ht, hany, hfuel, path, hv⟩)

/-! ## Induction -/

theorem forall₂_imp_of_mem {α β : Type} {R S : α → β → Prop} {xs : List α} {ys : List β}
    (h : List.Forall₂ R xs ys) (himp : ∀ x ∈ xs, ∀ y, R x y → S x y) : List.Forall₂ S xs ys := by
  induction h with
  | nil => exact List.Forall₂.nil
  | @cons x y xs ys hxy _ ih =>
    refine List.Forall₂.cons (himp x List.mem_cons_self y hxy) (ih fun x' hx' => ?_)
    exact himp x' (List.mem_cons_of_mem _ hx')

/-- Induction over inlining that finds nothing: on the fuel, and for one document on the values
inside a value. -/
theorem Inlines.induction {P : List Target → Location → Json → Json → Prop}
    (leaf : ∀ stack base v, v.children = [] → v.reference? = none → P stack base v v)
    (arr : ∀ stack base xs ys, List.Forall₂ (P stack base) xs ys →
      P stack base (.arr xs) (.arr ys))
    (obj : ∀ fuel stack base (ms ns : Members), (Json.obj ms).reference? = none →
      List.Forall₂ (fun m n => m.1 = n.1 ∧ s.Inlines fuel stack base m.2 n.2) ms ns →
      List.Forall₂ (fun m n => m.1 = n.1 ∧ P stack base m.2 n.2) ms ns →
      P stack base (.obj ms) (.obj ns))
    (unfound : ∀ stack base h r, h.reference? = some r →
      s.find? base (Reference.document r) = none → P stack base h h)
    (kept : ∀ stack base h r t v, h.reference? = some r → s.target? base r = some (t, v) →
      stack.any (· == t) = true → (t.location == s.location) = true →
      P stack base h (backEdge t.pointer h))
    (followed : ∀ stack base h r t v out, h.reference? = some r →
      s.target? base r = some (t, v) → stack.any (· == t) = false →
      P (t :: stack) t.location v out → P stack base h out)
    {fuel : Nat} {stack : List Target} {base : Location} {v out : Json}
    (h : s.Inlines fuel stack base v out) : P stack base v out := by
  induction fuel using Nat.strongRecOn generalizing stack base v out with
  | _ fuel ihFuel =>
    induction v using Json.children_induction generalizing out with
    | _ v ih =>
      cases hr : v.reference? with
      | some r =>
        rcases inlines_reference hr h with ⟨hnone, rfl⟩ | ⟨t, w, ht, hany, hroot, rfl⟩ |
          ⟨t, w, n, ht, hany, rfl, hw⟩
        · exact unfound stack base _ r hr hnone
        · exact kept stack base v r t w hr ht hany hroot
        · exact followed stack base v r t w out hr ht hany (ihFuel n (Nat.lt_succ_self n) hw)
      | none =>
        cases v with
        | arr xs =>
          obtain ⟨ys, rfl, hall⟩ := inlines_arr h
          exact arr stack base xs ys (forall₂_imp_of_mem hall fun x hx y hxy => ih x hx hxy)
        | obj ms =>
          obtain ⟨ns, rfl, hall⟩ := inlines_obj hr h
          refine obj fuel stack base ms ns hr hall (forall₂_imp_of_mem hall fun m hm n hmn => ?_)
          exact ⟨hmn.1, ih m.2 (List.mem_map.2 ⟨m, hm, rfl⟩) hmn.2⟩
        | _ =>
          rw [inlines_leaf ⟨by simp, by simp⟩ h]
          exact leaf stack base _ rfl rfl

/-! ## Pointers -/

theorem forall₂_get? {R : Json → Json → Prop} {ms ns : Members}
    (h : List.Forall₂ (fun m n => m.1 = n.1 ∧ R m.2 n.2) ms ns) {name : String} {v : Json}
    (hv : Members.get? ms name = some v) : ∃ w, Members.get? ns name = some w ∧ R v w := by
  induction h with
  | nil => simp at hv
  | @cons m n ms ns hmn _ ih =>
    obtain ⟨k, x⟩ := m
    obtain ⟨k', y⟩ := n
    obtain ⟨rfl, hxy⟩ := hmn
    rw [Members.get?_cons] at hv ⊢
    split at hv
    · next hk =>
      rw [if_pos hk]
      exact ⟨y, rfl, Option.some.inj hv ▸ hxy⟩
    · next hk =>
      rw [if_neg hk]
      exact ih hv

theorem forall₂_getElem? {R : Json → Json → Prop} {xs ys : List Json} (h : List.Forall₂ R xs ys)
    {i : Nat} {v : Json} (hv : xs[i]? = some v) : ∃ w, ys[i]? = some w ∧ R v w := by
  induction h generalizing i with
  | nil => simp at hv
  | @cons x y xs ys hxy _ ih =>
    cases i with
    | zero => exact ⟨y, rfl, Option.some.inj hv ▸ hxy⟩
    | succ i => exact ih hv

theorem forall₂_get?_right {R : Json → Json → Prop} {ms ns : Members}
    (h : List.Forall₂ (fun m n => m.1 = n.1 ∧ R m.2 n.2) ms ns) {name : String} {w : Json}
    (hw : Members.get? ns name = some w) : ∃ v, Members.get? ms name = some v ∧ R v w := by
  have hflip : List.Forall₂ (fun n m => n.1 = m.1 ∧ flip R n.2 m.2) ns ms :=
    List.Forall₂.flip (h.imp fun _ _ hmn => ⟨hmn.1.symm, hmn.2⟩)
  exact forall₂_get? hflip hw

theorem forall₂_mem_left {α β : Type} {R : α → β → Prop} {xs : List α} {ys : List β}
    (h : List.Forall₂ R xs ys) {x : α} (hx : x ∈ xs) : ∃ y ∈ ys, R x y := by
  induction h with
  | nil => cases hx
  | @cons x' y xs ys hxy _ ih =>
    rcases List.mem_cons.1 hx with rfl | hx
    · exact ⟨y, List.mem_cons_self, hxy⟩
    · obtain ⟨y', hy', hr⟩ := ih hx
      exact ⟨y', List.mem_cons_of_mem _ hy', hr⟩

theorem forall₂_mem_right {α β : Type} {R : α → β → Prop} {xs : List α} {ys : List β}
    (h : List.Forall₂ R xs ys) {y : β} (hy : y ∈ ys) : ∃ x ∈ xs, R x y :=
  forall₂_mem_left (R := flip R) h.flip hy

theorem Inlines.step {fuel : Nat} {stack : List Target} {base : Location} {v out : Json}
    (h : s.Inlines fuel stack base v out) (hr : v.reference? = none) {segment : List Char}
    {w : Json} (hw : Pointer.step? segment v = some w) :
    ∃ x, Pointer.step? segment out = some x ∧ s.Inlines fuel stack base w x := by
  cases v with
  | arr xs =>
    obtain ⟨ys, rfl, hall⟩ := inlines_arr h
    obtain ⟨i, hi, hxi⟩ := Option.bind_eq_some_iff.1 hw
    obtain ⟨y, hy, hxy⟩ := forall₂_getElem? hall hxi
    exact ⟨y, Option.bind_eq_some_iff.2 ⟨i, hi, hy⟩, hxy⟩
  | obj ms =>
    obtain ⟨ns, rfl, hall⟩ := inlines_obj hr h
    exact forall₂_get? hall hw
  | _ => simp [Pointer.step?] at hw

theorem Inlines.step_eq_none {fuel : Nat} {stack : List Target} {base : Location} {v out : Json}
    (h : s.Inlines fuel stack base v out) (hr : v.reference? = none) {segment : List Char}
    (hnone : Pointer.step? segment v = none) : Pointer.step? segment out = none := by
  rw [Option.eq_none_iff_forall_ne_some] at hnone ⊢
  intro x hx
  cases v with
  | arr xs =>
    obtain ⟨ys, rfl, hall⟩ := inlines_arr h
    obtain ⟨i, hi, hxi⟩ := Option.bind_eq_some_iff.1 hx
    obtain ⟨y, hy, _⟩ := forall₂_getElem? (R := flip (s.Inlines fuel stack base)) hall.flip hxi
    exact hnone y (Option.bind_eq_some_iff.2 ⟨i, hi, hy⟩)
  | obj ms =>
    obtain ⟨ns, rfl, hall⟩ := inlines_obj hr h
    obtain ⟨w, hw, _⟩ := forall₂_get?_right hall hx
    exact hnone w hw
  | _ =>
    rw [inlines_leaf ⟨by simp, by simp⟩ h] at hx
    cases hx

theorem Inlines.follow {fuel : Nat} {stack : List Target} {base : Location}
    {segments : List (List Char)} {v w out : Json} (h : s.Inlines fuel stack base v out)
    (hs : Pointer.IsStraight segments v) (hw : Pointer.follow? segments v = some w) :
    ∃ x, Pointer.follow? segments out = some x ∧ s.Inlines fuel stack base w x := by
  induction segments generalizing v out with
  | nil =>
    rw [← Option.some.inj hw]
    exact ⟨out, rfl, h⟩
  | cons segment rest ih =>
    obtain ⟨u, hu, huw⟩ := Option.bind_eq_some_iff.1 hw
    obtain ⟨y, hy, hyu⟩ := h.step hs.1 hu
    obtain ⟨x, hx, hxw⟩ := ih hyu (hs.2 u hu) huw
    exact ⟨x, Option.bind_eq_some_iff.2 ⟨y, hy, hx⟩, hxw⟩

theorem Inlines.follow_eq_none {fuel : Nat} {stack : List Target} {base : Location}
    {segments : List (List Char)} {v out : Json} (h : s.Inlines fuel stack base v out)
    (hs : Pointer.IsStraight segments v) (hnone : Pointer.follow? segments v = none) :
    Pointer.follow? segments out = none := by
  induction segments generalizing v out with
  | nil => cases hnone
  | cons segment rest ih =>
    cases hu : Pointer.step? segment v with
    | none => rw [Pointer.follow?, h.step_eq_none hs.1 hu, Option.bind_none]
    | some u =>
      obtain ⟨y, hy, hyu⟩ := h.step hs.1 hu
      rw [Pointer.follow?, hu, Option.bind_some] at hnone
      rw [Pointer.follow?, hy, Option.bind_some]
      exact ih hyu (hs.2 u hu) hnone

/-- A pointer that passes no reference object leads to the inlined form of what it leads to. -/
theorem Inlines.pointer {fuel : Nat} {stack : List Target} {base : Location} {v w out : Json}
    {pointer : String} (h : s.Inlines fuel stack base v out) (hs : v.IsStraight pointer)
    (hw : v.pointer? pointer = some w) :
    ∃ x, out.pointer? pointer = some x ∧ s.Inlines fuel stack base w x := by
  obtain ⟨ss, hss, hfollow⟩ := Option.bind_eq_some_iff.1 hw
  obtain ⟨x, hx, hxw⟩ := h.follow (hs ss hss) hfollow
  exact ⟨x, Option.bind_eq_some_iff.2 ⟨ss, hss, hx⟩, hxw⟩

/-! ## Findings -/

theorem exists_of_mem_walkMembers {f : Follow} {path : List String} {ms : Members} {d : Diagnostic}
    (hd : d ∈ (walkMembers f path ms).findings) :
    ∃ m ∈ ms, d ∈ (walk f (path ++ [m.1]) m.2).findings := by
  induction ms with
  | nil => cases hd
  | cons m ms ih =>
    rw [walkMembers] at hd
    rcases List.mem_append.1 hd with hd | hd
    · exact ⟨m, List.mem_cons_self, hd⟩
    · obtain ⟨n, hn, hdn⟩ := ih hd
      exact ⟨n, List.mem_cons_of_mem _ hn, hdn⟩

theorem exists_of_mem_walkItems {f : Follow} {path : List String} {index : Nat} {items : List Json}
    {d : Diagnostic} (hd : d ∈ (walkItems f path index items).findings) :
    ∃ x ∈ items, ∃ path', d ∈ (walk f path' x).findings := by
  induction items generalizing index with
  | nil => cases hd
  | cons x items ih =>
    rw [walkItems] at hd
    rcases List.mem_append.1 hd with hd | hd
    · exact ⟨x, List.mem_cons_self, _, hd⟩
    · obtain ⟨y, hy, hdy⟩ := ih hd
      exact ⟨y, List.mem_cons_of_mem _ hy, hdy⟩

/-- Findings are made where a reference that is seen is replaced, and nowhere else. -/
theorem exists_sees_of_mem_walk {f : Follow} {v : Json} {path : List String} {d : Diagnostic}
    (hd : d ∈ (walk f path v).findings) :
    ∃ path' h r, v.Sees h ∧ h.reference? = some r ∧ d ∈ (f path' r h).findings := by
  induction v using Json.children_induction generalizing path with
  | _ v ih =>
    cases hr : v.reference? with
    | some r =>
      obtain ⟨ms, rfl⟩ := reference?_obj hr
      rw [walk, hr] at hd
      exact ⟨path, _, r, Json.Sees.refl _, hr, hd⟩
    | none =>
      have hchild : ∃ w ∈ v.children, ∃ path', d ∈ (walk f path' w).findings := by
        cases v with
        | obj ms =>
          rw [walk, hr] at hd
          obtain ⟨m, hm, hdm⟩ := exists_of_mem_walkMembers hd
          exact ⟨m.2, List.mem_map.2 ⟨m, hm, rfl⟩, _, hdm⟩
        | arr items =>
          rw [walk] at hd
          exact exists_of_mem_walkItems hd
        | _ => cases hd
      obtain ⟨w, hw, path', hdw⟩ := hchild
      obtain ⟨path'', h, r, hs, hrh, hdh⟩ := ih w hw hdw
      exact ⟨path'', h, r, Relation.ReflTransGen.head ⟨hr, hw⟩ hs, hrh, hdh⟩

theorem walk_findings {P : Diagnostic → Prop} {f : Follow}
    (hf : ∀ path r h, ∀ d ∈ (f path r h).findings, P d) (v : Json) (path : List String) :
    ∀ d ∈ (walk f path v).findings, P d := by
  intro d hd
  obtain ⟨path', h, r, _, _, hdh⟩ := exists_sees_of_mem_walk hd
  exact hf path' r h d hdh

theorem refuse_findings (base : Location) (path : List String) (holder : Json)
    (message : String) :
    ∀ d ∈ (s.refuse base path holder message).findings, Reference.IsFinding s.location d := by
  intro d hd
  rw [List.mem_singleton.1 hd]
  exact ⟨base, path, message, rfl⟩

theorem meet_findings {stack : List Target} {base : Location} {path : List String}
    {reference : String} {holder : Json} {enter : Target → Json → Inlined Json}
    (henter : ∀ t v, ∀ d ∈ (enter t v).findings, Reference.IsFinding s.location d) :
    ∀ d ∈ (s.meet stack base path reference holder enter).findings,
      Reference.IsFinding s.location d := by
  unfold meet
  split
  · simp
  · dsimp only
    split
    · exact refuse_findings _ _ _ _
    · split
      · exact refuse_findings _ _ _ _
      · split
        · split
          · simp
          · exact refuse_findings _ _ _ _
        · exact henter _ _

theorem follow_findings (fuel : Nat) (stack : List Target) (base : Location) (path : List String)
    (reference : String) (holder : Json) :
    ∀ d ∈ (s.follow fuel stack base path reference holder).findings,
      Reference.IsFinding s.location d := by
  induction fuel generalizing stack base path reference holder with
  | zero => exact meet_findings fun _ _ => refuse_findings _ _ _ _
  | succ n ih => exact meet_findings fun t v => walk_findings (ih (t :: stack) t.location) v path

/-- Whatever inlining finds is found at a reference. -/
theorem inline_findings (s : Sources) : ∀ d ∈ s.inline.findings, Reference.IsFinding s.location d :=
  walk_findings (follow_findings s.bound [] s.location) s.root []

/-! ## Only references that are seen are replaced -/

theorem walkMembers_congr {f g : Follow} {path : List String} {ms : Members}
    (h : ∀ m ∈ ms, ∀ path, walk f path m.2 = walk g path m.2) :
    walkMembers f path ms = walkMembers g path ms := by
  induction ms with
  | nil => rfl
  | cons m ms ih =>
    rw [walkMembers, walkMembers, h m List.mem_cons_self,
      ih fun n hn => h n (List.mem_cons_of_mem _ hn)]

theorem walkItems_congr {f g : Follow} {path : List String} {index : Nat} {items : List Json}
    (h : ∀ x ∈ items, ∀ path, walk f path x = walk g path x) :
    walkItems f path index items = walkItems g path index items := by
  induction items generalizing index with
  | nil => rfl
  | cons x items ih =>
    rw [walkItems, walkItems, h x List.mem_cons_self,
      ih fun y hy => h y (List.mem_cons_of_mem _ hy)]

theorem walk_congr_of_sees {f g : Follow} {v : Json}
    (hfg : ∀ h r, v.Sees h → h.reference? = some r → ∀ path, f path r h = g path r h)
    (path : List String) : walk f path v = walk g path v := by
  induction v using Json.children_induction generalizing path with
  | _ v ih =>
    cases hr : v.reference? with
    | some r =>
      obtain ⟨ms, rfl⟩ := reference?_obj hr
      rw [walk, walk, hr]
      exact hfg _ r (Json.Sees.refl _) hr path
    | none =>
      have hchild : ∀ w ∈ v.children, ∀ path, walk f path w = walk g path w := fun w hw =>
        ih w hw fun h r hs => hfg h r (Relation.ReflTransGen.head ⟨hr, hw⟩ hs)
      cases v with
      | obj ms =>
        have hmembers : walkMembers f path ms = walkMembers g path ms :=
          walkMembers_congr fun m hm => hchild m.2 (List.mem_map.2 ⟨m, hm, rfl⟩)
        rw [walk, walk, hr]
        simp only [hmembers]
      | arr items =>
        have hitems : walkItems f path 0 items = walkItems g path 0 items :=
          walkItems_congr hchild
        rw [walk, walk, hitems]
      | _ => rfl

/-! ## Values do not depend on the path -/

theorem walkMembers_value_congr {f : Follow} {path path' : List String} {ms : Members}
    (h : ∀ m ∈ ms, ∀ path path', (walk f path m.2).value = (walk f path' m.2).value) :
    (walkMembers f path ms).value = (walkMembers f path' ms).value := by
  induction ms with
  | nil => rfl
  | cons m ms ih =>
    have hfirst := h m List.mem_cons_self (path ++ [m.1]) (path' ++ [m.1])
    have hothers := ih fun n hn => h n (List.mem_cons_of_mem _ hn)
    simp only [walkMembers, hfirst, hothers]

theorem walkItems_value_congr {f : Follow} {path path' : List String} {index : Nat}
    {items : List Json}
    (h : ∀ x ∈ items, ∀ path path', (walk f path x).value = (walk f path' x).value) :
    (walkItems f path index items).value = (walkItems f path' index items).value := by
  induction items generalizing index with
  | nil => rfl
  | cons x items ih =>
    have hfirst := h x List.mem_cons_self (path ++ [toString index]) (path' ++ [toString index])
    have hothers : (walkItems f path (index + 1) items).value =
        (walkItems f path' (index + 1) items).value :=
      ih fun y hy => h y (List.mem_cons_of_mem _ hy)
    simp only [walkItems, hfirst, hothers]

theorem walk_value {f : Follow} (hf : ∀ path path' r h, (f path r h).value = (f path' r h).value)
    (v : Json) (path path' : List String) : (walk f path v).value = (walk f path' v).value := by
  induction v using Json.children_induction generalizing path path' with
  | _ v ih =>
    cases v with
    | obj ms =>
      have hmembers : (walkMembers f path ms).value = (walkMembers f path' ms).value :=
        walkMembers_value_congr fun m hm => ih m.2 (List.mem_map.2 ⟨m, hm, rfl⟩)
      rw [walk, walk]
      split
      · next r _ => exact hf path path' r _
      · exact congrArg Json.obj hmembers
    | arr items =>
      have hitems : (walkItems f path 0 items).value = (walkItems f path' 0 items).value :=
        walkItems_value_congr ih
      rw [walk, walk]
      exact congrArg Json.arr hitems
    | _ => rfl

theorem meet_value {stack : List Target} {base : Location} {path path' : List String}
    {reference : String} {holder : Json} {enter enter' : Target → Json → Inlined Json}
    (henter : ∀ t v, (enter t v).value = (enter' t v).value) :
    (s.meet stack base path reference holder enter).value =
      (s.meet stack base path' reference holder enter').value := by
  unfold meet
  split
  · rfl
  · dsimp only
    split
    · rfl
    · split
      · rfl
      · split
        · split
          · rfl
          · rfl
        · exact henter _ _

theorem follow_value (fuel : Nat) (stack : List Target) (base : Location)
    (path path' : List String) (reference : String) (holder : Json) :
    (s.follow fuel stack base path reference holder).value =
      (s.follow fuel stack base path' reference holder).value := by
  induction fuel generalizing stack base path path' reference holder with
  | zero => exact meet_value fun _ _ => rfl
  | succ n ih => exact meet_value fun t v => walk_value (ih (t :: stack) t.location) v path path'

/-- A value of the root document with its references inlined. -/
def image (s : Sources) (v : Json) : Json := (walk (s.follow s.bound [] s.location) [] v).value

theorem Inlines.eq_image {v out : Json} (h : s.Inlines s.bound [] s.location v out) :
    out = s.image v := by
  obtain ⟨path, heq⟩ := h
  rw [image, walk_value (follow_value s.bound [] s.location) v [] path, heq]

theorem inlines_root (h : s.inline.findings = []) :
    s.Inlines s.bound [] s.location s.root (s.image s.root) := by
  refine ⟨[], ?_⟩
  rw [image, ← h]
  rfl

/-- A pointer that passes no reference object leads to the image of what it led to. -/
theorem pointer?_inline (h : s.inline.findings = []) {pointer : String}
    (hs : s.root.IsStraight pointer) :
    s.inline.value.pointer? pointer = (s.root.pointer? pointer).map s.image := by
  have hroot := inlines_root h
  cases hv : s.root.pointer? pointer with
  | some v =>
    obtain ⟨x, hx, hxv⟩ := hroot.pointer hs hv
    rw [Option.map_some, ← hxv.eq_image]
    exact hx
  | none =>
    rw [Option.map_none]
    show (Pointer.segments? pointer.toList).bind _ = none
    cases hss : Pointer.segments? pointer.toList with
    | none => rfl
    | some ss =>
      rw [Json.pointer?, hss, Option.bind_some] at hv
      exact hroot.follow_eq_none (hs ss hss) hv

end Sources
end MessageContract
