import MessageContract.Proofs.Reference.Point

/-!
# Inlining as a map

What comes out of arrays and objects is what comes out of their parts, whatever is found on the way
(`Sources.inlined_arr`, `Sources.inlined_obj`), and a value without references comes out as it is
(`Sources.inlined_plain`).
-/

namespace MessageContract

namespace Json

/-- A text stands under `$ref`. -/
def IsReference (v : Json) : Prop := ∃ ms t, v = .obj ms ∧ ("$ref", .str t) ∈ ms

/-- No reference stands in the value. -/
def IsPlain (v : Json) : Prop := ∀ h, v.Holds h → ¬ h.IsReference

theorem reference?_eq_none {v : Json} (h : ¬ v.IsReference) : v.reference? = none := by
  cases hr : v.reference? with
  | none => rfl
  | some r =>
    obtain ⟨ms, rfl⟩ := Sources.reference?_obj hr
    exact absurd ⟨ms, r, rfl, Members.mem_of_get? (Sources.get?_of_reference? hr)⟩ h

theorem IsPlain.reference? {v : Json} (h : v.IsPlain) : v.reference? = none :=
  reference?_eq_none (h v (Holds.refl v))

theorem IsPlain.child {v w : Json} (h : v.IsPlain) (hw : w ∈ v.children) : w.IsPlain :=
  fun u hu => h u (hu.child hw)

end Json

namespace Sources

variable (s : Sources)

/-- What inlining makes of a value of the document at `base`, while the targets in `stack` are under
way. -/
def inlined (fuel : Nat) (stack : List Target) (base : Location) (v : Json) : Json :=
  (walk (s.follow fuel stack base) [] v).value

variable {s}

theorem walkItems_value {f : Follow} {value : Json → Json}
    (hf : ∀ path v, (walk f path v).value = value v) (path : List String) (index : Nat)
    (xs : List Json) : (walkItems f path index xs).value = xs.map value := by
  induction xs generalizing index with
  | nil => rfl
  | cons x xs ih =>
    rw [walkItems, List.map_cons, ← hf (path ++ [toString index]) x, ← ih (index + 1)]

theorem walkMembers_value {f : Follow} {value : Json → Json}
    (hf : ∀ path v, (walk f path v).value = value v) (path : List String) (ms : Members) :
    (walkMembers f path ms).value = ms.map fun m => (m.1, value m.2) := by
  induction ms with
  | nil => rfl
  | cons m ms ih =>
    rw [walkMembers, List.map_cons, ← hf (path ++ [m.1]) m.2, ← ih]

section

variable {fuel : Nat} {stack : List Target} {base : Location}

theorem walk_eq_inlined (path : List String) (v : Json) :
    (walk (s.follow fuel stack base) path v).value = s.inlined fuel stack base v :=
  walk_value (follow_value fuel stack base) v path []

theorem inlined_arr (xs : List Json) :
    s.inlined fuel stack base (.arr xs) = .arr (xs.map (s.inlined fuel stack base)) := by
  rw [inlined, walk, walkItems_value walk_eq_inlined]

theorem inlined_obj {ms : Members} (hr : (Json.obj ms).reference? = none) :
    s.inlined fuel stack base (.obj ms) =
      .obj (ms.map fun m => (m.1, s.inlined fuel stack base m.2)) := by
  rw [inlined, walk, hr]
  exact congrArg Json.obj (walkMembers_value walk_eq_inlined [] ms)

theorem inlined_leaf {v : Json} (hobj : ∀ ms, v ≠ .obj ms) (harr : ∀ xs, v ≠ .arr xs) :
    s.inlined fuel stack base v = v := by
  cases v with
  | obj ms => exact absurd rfl (hobj ms)
  | arr xs => exact absurd rfl (harr xs)
  | _ => rfl

/-- A value without references comes out as it is. -/
theorem inlined_plain {v : Json} (h : v.IsPlain) : s.inlined fuel stack base v = v := by
  induction v using Json.children_induction with
  | _ v ih =>
    cases v with
    | obj ms =>
      rw [inlined_obj h.reference?]
      congr 1
      refine (List.map_congr_left fun m hm => ?_).trans (List.map_id ms)
      have hchild : m.2 ∈ (Json.obj ms).children := List.mem_map.2 ⟨m, hm, rfl⟩
      rw [ih m.2 hchild (h.child hchild)]
      rfl
    | arr xs =>
      rw [inlined_arr]
      congr 1
      exact (List.map_congr_left fun x hx => ih x hx (h.child hx)).trans (List.map_id xs)
    | _ => rfl

theorem Inlines.eq_inlined {v out : Json} (h : s.Inlines fuel stack base v out) :
    out = s.inlined fuel stack base v := by
  obtain ⟨path, heq⟩ := h
  rw [← walk_eq_inlined path v, heq]

/-- Nothing is found in the parts either. -/
theorem Inlines.child {v w out : Json} (h : s.Inlines fuel stack base v out)
    (hr : v.reference? = none) (hw : w ∈ v.children) :
    s.Inlines fuel stack base w (s.inlined fuel stack base w) := by
  cases v with
  | arr xs =>
    obtain ⟨ys, rfl, hall⟩ := inlines_arr h
    obtain ⟨y, _, hy⟩ := forall₂_mem_left hall hw
    exact hy.eq_inlined ▸ hy
  | obj ms =>
    obtain ⟨ns, rfl, hall⟩ := inlines_obj hr h
    obtain ⟨m, hm, rfl⟩ := List.mem_map.1 hw
    obtain ⟨n, _, _, hn⟩ := forall₂_mem_left hall hm
    exact hn.eq_inlined ▸ hn
  | _ => cases hw

end

/-! ## The root document -/

/-- What is seen from the root document is met with nothing under way. -/
theorem meets_of_sees {v : Json} (h : s.root.Sees v) : s.Meets s.start ⟨[], s.location, v⟩ :=
  meets_sees (p := s.start) h

/-- An edge back names a value of the root document. -/
theorem Keeps.names_root {p : Point} {r : String} {t : Target} {v : Json} (hk : s.Keeps p r t v) :
    s.find? p.base (Reference.document r) = some (s.location, s.root) ∧
      t = ⟨s.location, Reference.fragment r⟩ ∧ s.root.pointer? t.pointer = some v := by
  obtain ⟨d, hd, hv⟩ := Option.bind_eq_some_iff.1 hk.target
  obtain ⟨w, hw, heq⟩ := Option.map_eq_some_iff.1 hv
  obtain ⟨rfl, rfl⟩ := Prod.mk.inj heq
  obtain ⟨l, _, hl⟩ := Option.bind_eq_some_iff.1 hd
  split at hl
  · obtain rfl := Option.some.inj hl
    exact ⟨hd, rfl, hw⟩
  · next hne =>
    -- a stored document is found under its own location, which is not the root document's
    have hfound : (d.1 == l) = true :=
      List.find?_some (p := fun e : Location × Json => e.1 == l) hl
    exact absurd (BEq.trans (BEq.symm hfound) hk.root) hne

end Sources
end MessageContract
