import MessageContract.Proofs.Location
import MessageContract.Proofs.Reference.Inlining

/-!
# The points that inlining comes to

From a value that is no reference object inlining goes on to the parts of it, and from a reference
to what it names, unless that is under way (`Sources.Step`). Whatever it comes to stands somewhere
in the root document or in a stored one (`Sources.Meets.stands`).
-/

namespace MessageContract

/-- Where inlining is: the targets under way, the document, and the value at hand. -/
structure Point where
  stack : List Target
  base : Location
  value : Json

namespace Sources

/-- All documents, the root document first. -/
def documents (s : Sources) : Documents := (s.location, s.root) :: s.store

/-- The root document, with nothing under way. -/
def start (s : Sources) : Point := ⟨[], s.location, s.root⟩

variable (s : Sources)

/-- From a reference to the value that it names. -/
inductive Enters : Point → Point → Prop
  | mk {p : Point} {r : String} {t : Target} {v : Json} (reference : p.value.reference? = some r)
      (target : s.target? p.base r = some (t, v)) (fresh : p.stack.any (· == t) = false) :
      Enters p ⟨t :: p.stack, t.location, v⟩

/-- From a point to the next. -/
inductive Step : Point → Point → Prop
  | part {p : Point} {w : Json} (plain : p.value.reference? = none) (child : w ∈ p.value.children) :
      Step p { p with value := w }
  | enter {p q : Point} (entered : s.Enters p q) : Step p q

/-- From a reference through the references that it leads to. -/
def Leads : Point → Point → Prop := Relation.ReflTransGen s.Enters

/-- Inlining gets from the first point to the second. -/
def Meets : Point → Point → Prop := Relation.ReflTransGen s.Step

/-- At the point stands a reference that stays as an edge back to the target, a value of the root
document. -/
structure Keeps (p : Point) (r : String) (t : Target) (v : Json) : Prop where
  reference : p.value.reference? = some r
  target : s.target? p.base r = some (t, v)
  underWay : p.stack.any (· == t) = true
  root : (t.location == s.location) = true

variable {s}

/-! ## Finding documents -/

theorem find?_mem {base : Location} {document : String} {d : Location × Json}
    (h : s.find? base document = some d) : d ∈ s.documents := by
  obtain ⟨l, _, hl⟩ := Option.bind_eq_some_iff.1 h
  split at hl
  · rw [← Option.some.inj hl]
    exact List.mem_cons_self
  · exact List.mem_cons_of_mem _ (List.mem_of_find?_eq_some hl)

theorem find?_isSome_of_location {base : Location} {document : String} {l : Location}
    (htarget : (if document.isEmpty then some base else (base.join document).toOption) = some l)
    (hl : ∃ d ∈ s.documents, (d.1 == l) = true) : (s.find? base document).isSome = true := by
  rw [find?, htarget, Option.bind_some]
  split
  · rfl
  · next hroot =>
    obtain ⟨d, hd, hdl⟩ := hl
    rcases List.mem_cons.1 hd with rfl | hd
    · exact absurd (BEq.symm hdl) hroot
    · rw [Documents.find?, List.find?_isSome]
      exact ⟨d, hd, hdl⟩

theorem find?_empty (l : Location) : s.find? l "" =
    if l == s.location then some (s.location, s.root) else s.store.find? l := by
  simp [find?]

/-- A document finds itself. -/
theorem find?_self {d : Location × Json} (hd : d ∈ s.documents) :
    (s.find? d.1 "").isSome = true :=
  find?_isSome_of_location (l := d.1) rfl ⟨d, hd, BEq.refl d.1⟩

theorem find?_of_join {base target : Location} {document : String}
    (hne : document.isEmpty = false) (hjoin : base.join document = .ok target)
    (h : (target == s.location) = true ∨ ∃ e ∈ s.store, (e.1 == target) = true) :
    (s.find? base document).isSome = true := by
  refine find?_isSome_of_location (l := target) ?_ ?_
  · rw [hne, hjoin]
    rfl
  · rcases h with h | ⟨e, he, h⟩
    · exact ⟨_, List.mem_cons_self, BEq.symm h⟩
    · exact ⟨e, List.mem_cons_of_mem _ he, h⟩

theorem find?_congr_of_isEmpty {base : Location} {document : String}
    (h : document.isEmpty = true) : s.find? base document = s.find? base "" := by
  rw [String.isEmpty_iff.1 h]

theorem target?_mem {base : Location} {r : String} {t : Target} {v : Json}
    (h : s.target? base r = some (t, v)) :
    ∃ d ∈ s.documents, d.1 = t.location ∧ d.2.pointer? t.pointer = some v := by
  obtain ⟨d, hd, hv⟩ := Option.bind_eq_some_iff.1 h
  obtain ⟨w, hw, heq⟩ := Option.map_eq_some_iff.1 hv
  obtain ⟨rfl, rfl⟩ := Prod.mk.inj heq
  exact ⟨d, find?_mem hd, rfl, hw⟩

theorem target?_unique {base : Location} {r : String} {t t' : Target} {v v' : Json}
    (h : s.target? base r = some (t, v)) (h' : s.target? base r = some (t', v')) :
    t = t' ∧ v = v' :=
  Prod.mk.inj (Option.some.inj (h.symm.trans h'))

theorem find?_of_target? {base : Location} {r : String} {t : Target} {v : Json}
    (h : s.target? base r = some (t, v)) : s.find? base (Reference.document r) ≠ none := by
  obtain ⟨d, hd, _⟩ := Option.bind_eq_some_iff.1 h
  rw [hd]
  exact Option.some_ne_none d

/-! ## Steps -/

theorem Enters.not_plain {p q : Point} (h : s.Enters p q) : p.value.reference? ≠ none := by
  obtain ⟨hr, _, _⟩ := h
  rw [hr]
  exact Option.some_ne_none _

theorem Enters.unique {p q q' : Point} (h : s.Enters p q) (h' : s.Enters p q') : q = q' := by
  obtain ⟨hr, ht, _⟩ := h
  obtain ⟨hr', ht', _⟩ := h'
  obtain rfl := Option.some.inj (hr.symm.trans hr')
  obtain ⟨rfl, rfl⟩ := target?_unique ht ht'
  rfl

theorem Meets.refl (p : Point) : s.Meets p p := Relation.ReflTransGen.refl

theorem Meets.part {p q : Point} {w : Json} (hr : p.value.reference? = none)
    (hw : w ∈ p.value.children) (h : s.Meets { p with value := w } q) : s.Meets p q :=
  Relation.ReflTransGen.head (Step.part hr hw) h

theorem Meets.enter {p q q' : Point} (he : s.Enters p q) (h : s.Meets q q') : s.Meets p q' :=
  Relation.ReflTransGen.head (Step.enter he) h

/-- What is seen from the value of a point is met with the same targets under way. -/
theorem meets_sees {p : Point} {v : Json} (h : p.value.Sees v) :
    s.Meets p { p with value := v } := by
  induction h with
  | refl => exact Meets.refl p
  | tail _ hstep ih => exact Relation.ReflTransGen.tail ih (Step.part hstep.1 hstep.2)

/-- What can be met from a value that is no reference object. -/
theorem meets_plain {p q : Point} (hr : p.value.reference? = none) (h : s.Meets p q) :
    q = p ∨ ∃ w ∈ p.value.children, s.Meets { p with value := w } q := by
  rcases Relation.ReflTransGen.cases_head h with heq | ⟨p', hstep, hrest⟩
  · exact Or.inl heq.symm
  · cases hstep with
    | part _ hw => exact Or.inr ⟨_, hw, hrest⟩
    | enter he =>
      obtain ⟨href, _, _⟩ := he
      rw [hr] at href
      cases href

/-- What can be met from a reference. -/
theorem meets_reference {p q : Point} {r : String} (hr : p.value.reference? = some r)
    (h : s.Meets p q) : q = p ∨ ∃ t v, s.target? p.base r = some (t, v) ∧
      p.stack.any (· == t) = false ∧ s.Meets ⟨t :: p.stack, t.location, v⟩ q := by
  rcases Relation.ReflTransGen.cases_head h with heq | ⟨p', hstep, hrest⟩
  · exact Or.inl heq.symm
  · cases hstep with
    | part hnone _ =>
      rw [hr] at hnone
      cases hnone
    | enter he =>
      obtain ⟨href, htarget, hfresh⟩ := he
      obtain rfl := Option.some.inj (hr.symm.trans href)
      exact Or.inr ⟨_, _, htarget, hfresh, hrest⟩

/-- The value of a point stands in one of the documents, the one of the point. -/
def Stands (s : Sources) (p : Point) : Prop :=
  ∃ d ∈ s.documents, d.1 = p.base ∧ d.2.Holds p.value

theorem stands_start (s : Sources) : s.Stands s.start :=
  ⟨(s.location, s.root), List.mem_cons_self, rfl, Json.Holds.refl _⟩

theorem Step.stands {p q : Point} (hstep : s.Step p q) (hp : s.Stands p) : s.Stands q := by
  cases hstep with
  | part _ hw =>
    obtain ⟨d, hd, hbase, hholds⟩ := hp
    exact ⟨d, hd, hbase, Relation.ReflTransGen.tail hholds hw⟩
  | enter he =>
    obtain ⟨_, htarget, _⟩ := he
    obtain ⟨d, hd, hbase, hv⟩ := target?_mem htarget
    exact ⟨d, hd, hbase, Json.holds_of_pointer hv⟩

/-- Wherever inlining gets to, it stands in one of the documents. -/
theorem Meets.stands {p q : Point} (h : s.Meets p q) (hp : s.Stands p) : s.Stands q := by
  induction h with
  | refl => exact hp
  | tail _ hstep ih => exact hstep.stands ih

/-! ## What comes out at a point -/

/-- What a reference gives way to comes out at what it names. -/
theorem Inlines.of_enters {fuel : Nat} {p q : Point} {out : Json}
    (h : s.Inlines fuel p.stack p.base p.value out) (he : s.Enters p q) :
    ∃ n, s.Inlines n q.stack q.base q.value out := by
  obtain ⟨hr, ht, hfresh⟩ := he
  rcases inlines_reference hr h with ⟨hnone, _⟩ | ⟨t', v', ht', hany, _⟩ |
    ⟨t', v', n, ht', _, _, hv⟩
  · exact absurd hnone (find?_of_target? ht)
  · rw [← (target?_unique ht ht').1, hfresh] at hany
    cases hany
  · obtain ⟨rfl, rfl⟩ := target?_unique ht ht'
    exact ⟨n, hv⟩

theorem Inlines.of_leads {fuel : Nat} {p q : Point} {out : Json}
    (h : s.Inlines fuel p.stack p.base p.value out) (hq : s.Leads p q) :
    ∃ n, s.Inlines n q.stack q.base q.value out := by
  induction hq with
  | refl => exact ⟨fuel, h⟩
  | tail _ he ih =>
    obtain ⟨n, hn⟩ := ih
    exact hn.of_enters he

theorem Inlines.of_step {fuel : Nat} {p q : Point} {out : Json}
    (h : s.Inlines fuel p.stack p.base p.value out) (hstep : s.Step p q) :
    ∃ n out', s.Inlines n q.stack q.base q.value out' ∧ out.Holds out' := by
  cases hstep with
  | @part w hr hw =>
    obtain ⟨stack, base, v⟩ := p
    cases v with
    | arr xs =>
      obtain ⟨ys, rfl, hall⟩ := inlines_arr h
      obtain ⟨y, hy, hwy⟩ := forall₂_mem_left hall hw
      exact ⟨fuel, y, hwy, (Json.Holds.refl y).child hy⟩
    | obj ms =>
      obtain ⟨ns, rfl, hall⟩ := inlines_obj hr h
      obtain ⟨m, hm, rfl⟩ := List.mem_map.1 hw
      obtain ⟨n, hn, _, hmn⟩ := forall₂_mem_left hall hm
      exact ⟨fuel, n.2, hmn, (Json.Holds.refl n.2).child (List.mem_map.2 ⟨n, hn, rfl⟩)⟩
    | _ => cases hw
  | enter he =>
    obtain ⟨n, hn⟩ := h.of_enters he
    exact ⟨n, out, hn, Json.Holds.refl out⟩

/-- What comes out at a point that inlining gets to stands in what comes out in the end. -/
theorem Inlines.of_meets {fuel : Nat} {p q : Point} {out : Json}
    (h : s.Inlines fuel p.stack p.base p.value out) (hq : s.Meets p q) :
    ∃ n out', s.Inlines n q.stack q.base q.value out' ∧ out.Holds out' := by
  induction hq with
  | refl => exact ⟨fuel, out, h, Json.Holds.refl out⟩
  | tail _ hstep ih =>
    obtain ⟨n, x, hx, hout⟩ := ih
    obtain ⟨m, y, hy, hxy⟩ := hx.of_step hstep
    exact ⟨m, y, hy, hout.trans hxy⟩

theorem Inlines.eq_backEdge {fuel : Nat} {p : Point} {r : String} {t : Target} {v out : Json}
    (h : s.Inlines fuel p.stack p.base p.value out) (hk : s.Keeps p r t v) :
    out = backEdge t.pointer p.value := by
  rcases inlines_reference hk.reference h with ⟨hnone, _⟩ | ⟨t', v', ht', _, _, heq⟩ |
    ⟨t', v', n, ht', hfresh, _⟩
  · exact absurd hnone (find?_of_target? hk.target)
  · rw [heq, (target?_unique hk.target ht').1]
  · have hany := hk.underWay
    rw [(target?_unique hk.target ht').1, hfresh] at hany
    cases hany

/-- References are followed to the end: to a value that is no reference object, to a reference whose
document is not there, or to an edge back. -/
theorem Inlines.exists_leads {fuel : Nat} {p : Point} {out : Json}
    (h : s.Inlines fuel p.stack p.base p.value out) :
    ∃ q n, s.Leads p q ∧ s.Inlines n q.stack q.base q.value out ∧
      (q.value.reference? = none ∨
        (∃ r, q.value.reference? = some r ∧ s.find? q.base (Reference.document r) = none) ∨
        ∃ r t v, s.Keeps q r t v) := by
  induction fuel using Nat.strongRecOn generalizing p with
  | _ fuel ih =>
    cases hr : p.value.reference? with
    | none => exact ⟨p, fuel, Relation.ReflTransGen.refl, h, Or.inl hr⟩
    | some r =>
      rcases inlines_reference hr h with ⟨hnone, _⟩ | ⟨t, v, ht, hany, hroot, _⟩ |
        ⟨t, v, n, ht, hfresh, rfl, hv⟩
      · exact ⟨p, fuel, Relation.ReflTransGen.refl, h, Or.inr (Or.inl ⟨r, hr, hnone⟩)⟩
      · exact ⟨p, fuel, Relation.ReflTransGen.refl, h,
          Or.inr (Or.inr ⟨r, t, v, hr, ht, hany, hroot⟩)⟩
      · obtain ⟨q, m, hq, hin, hend⟩ := ih n (Nat.lt_succ_self n)
          (p := ⟨t :: p.stack, t.location, v⟩) hv
        exact ⟨q, m, Relation.ReflTransGen.head ⟨hr, ht, hfresh⟩ hq, hin, hend⟩

end Sources
end MessageContract
