import Mathlib.Logic.Relation
import MessageContract.Json.Pointer
import MessageContract.Proofs.Members
import MessageContract.Reference.Basic

/-!
# References inside values

A value is seen from another one if no reference object stands on the way to it. The references that
are seen from a document are its sites (`exists_site_of_sees`, `exists_sees_of_site`); all others are
hidden inside a reference object (`sees_or_hidden`). A pointer that passes no reference object leads
to a value that is seen (`sees_of_follow`).
-/

namespace MessageContract

namespace Json

/-- The values right inside a value. -/
def children : Json → List Json
  | .obj ms => ms.map (·.2)
  | .arr items => items
  | _ => []

/-- A size that is one more than what comes of the sizes of the values inside, and the same for all
texts. -/
structure IsSize (size : Json → Nat) (items : List Json → Nat) (members : Members → Nat)
    (op : Nat → Nat → Nat) : Prop where
  items_cons : ∀ x xs, items (x :: xs) = op (size x) (items xs)
  members_cons : ∀ m ms, members (m :: ms) = op (size m.2) (members ms)
  arr : ∀ xs, size (.arr xs) = items xs + 1
  obj : ∀ ms, size (.obj ms) = members ms + 1
  text : ∀ s t, size (.str s) = size (.str t)
  le_left : ∀ a b, a ≤ op a b
  le_right : ∀ a b, b ≤ op a b

theorem isSize_count : IsSize count countItems countMembers (· + ·) :=
  ⟨fun _ _ => rfl, fun _ _ => rfl, fun _ => rfl, fun _ => rfl, fun _ _ => rfl,
    Nat.le_add_right, fun a b => Nat.le_add_left b a⟩

theorem isSize_depth : IsSize depth depthItems depthMembers max :=
  ⟨fun _ _ => rfl, fun _ _ => rfl, fun _ => rfl, fun _ => rfl, fun _ _ => rfl,
    Nat.le_max_left, Nat.le_max_right⟩

namespace IsSize

variable {size : Json → Nat} {items : List Json → Nat} {members : Members → Nat}
  {op : Nat → Nat → Nat}

theorem le_of_mem (h : IsSize size items members op) {α : Type} {f : α → Nat} {g : List α → Nat}
    (cons : ∀ x xs, g (x :: xs) = op (f x) (g xs)) {x : α} {xs : List α} (hx : x ∈ xs) :
    f x ≤ g xs := by
  induction xs with
  | nil => cases hx
  | cons y ys ih =>
    rw [cons]
    rcases List.mem_cons.1 hx with rfl | hx
    · exact h.le_left _ _
    · exact Nat.le_trans (ih hx) (h.le_right _ _)

theorem lt_of_mem_children (h : IsSize size items members op) {v w : Json}
    (hw : w ∈ v.children) : size w < size v := by
  cases v with
  | obj ms =>
    obtain ⟨m, hm, rfl⟩ := List.mem_map.1 hw
    rw [h.obj]
    exact Nat.lt_succ_of_le (h.le_of_mem (f := fun m => size m.2) h.members_cons hm)
  | arr xs =>
    rw [h.arr]
    exact Nat.lt_succ_of_le (h.le_of_mem h.items_cons hw)
  | _ => cases hw

/-- What comes of a list stays if the sizes in it do. -/
theorem map_eq_of_cons {α : Type} {f : α → Nat} {g : List α → Nat}
    (cons : ∀ x xs, g (x :: xs) = op (f x) (g xs)) {t : α → α} {xs : List α}
    (ht : ∀ x ∈ xs, f (t x) = f x) : g (xs.map t) = g xs := by
  induction xs with
  | nil => rfl
  | cons x xs ih =>
    rw [List.forall_mem_cons] at ht
    rw [List.map_cons, cons, cons, ht.1, ih ht.2]

end IsSize

theorem count_lt_of_mem_children {v w : Json} (h : w ∈ v.children) : w.count < v.count :=
  isSize_count.lt_of_mem_children h

theorem depth_lt_of_mem_children {v w : Json} (h : w ∈ v.children) : w.depth < v.depth :=
  isSize_depth.lt_of_mem_children h

/-- Induction from the values inside a value to the value. -/
theorem children_induction {P : Json → Prop} (h : ∀ v : Json, (∀ w ∈ v.children, P w) → P v)
    (v : Json) : P v := by
  induction hn : v.count using Nat.strongRecOn generalizing v with
  | _ n ih => exact h v fun w hw => ih w.count (hn ▸ count_lt_of_mem_children hw) w rfl

/-- The second value stands somewhere in the first, or is the first. -/
def Holds : Json → Json → Prop := Relation.ReflTransGen fun v w => w ∈ v.children

/-- The second value is reached from the first without going into a reference object. -/
def Sees : Json → Json → Prop :=
  Relation.ReflTransGen fun v w => v.reference? = none ∧ w ∈ v.children

end Json

/-- A reference with something in front of the number sign. -/
def Reference.IsExternal (reference : String) : Prop :=
  (Reference.document reference).isEmpty = false

theorem Reference.document_hash (fragment : String) :
    Reference.document ("#" ++ fragment) = "" := by
  simp [Reference.document, Reference.split]

theorem Reference.fragment_hash (fragment : String) :
    Reference.fragment ("#" ++ fragment) = fragment := by
  simp [Reference.fragment, Reference.split]

instance (reference : String) : Decidable (Reference.IsExternal reference) :=
  inferInstanceAs (Decidable (_ = false))

namespace Json

/-- Some object in the value holds a reference to another document. -/
def HasExternal (v : Json) : Prop :=
  ∃ h r, v.Holds h ∧ h.reference? = some r ∧ Reference.IsExternal r

/-- Some reference object in the value has a reference to another document inside it. -/
def HidesExternal (v : Json) : Prop :=
  ∃ h r w, v.Holds h ∧ h.reference? = some r ∧ w ∈ h.children ∧ w.HasExternal

theorem Holds.refl (v : Json) : v.Holds v := Relation.ReflTransGen.refl

theorem Holds.trans {u v w : Json} (h : u.Holds v) (h' : v.Holds w) : u.Holds w :=
  Relation.ReflTransGen.trans h h'

theorem Holds.child {v w u : Json} (hw : w ∈ v.children) (h : w.Holds u) : v.Holds u :=
  Relation.ReflTransGen.head hw h

theorem holds_iff {v h : Json} : v.Holds h ↔ v = h ∨ ∃ w ∈ v.children, w.Holds h := by
  constructor
  · intro hv
    rcases Relation.ReflTransGen.cases_head hv with heq | ⟨w, hw, hwh⟩
    · exact Or.inl heq
    · exact Or.inr ⟨w, hw, hwh⟩
  · rintro (rfl | ⟨w, hw, hwh⟩)
    · exact Holds.refl v
    · exact hwh.child hw

/-- What stands somewhere in a value is the value itself or stands in a child. -/
theorem exists_holds_iff {P : Json → Prop} {v : Json} :
    (∃ u, v.Holds u ∧ P u) ↔ P v ∨ ∃ w ∈ v.children, ∃ u, w.Holds u ∧ P u := by
  constructor
  · rintro ⟨u, hu, hp⟩
    rcases holds_iff.1 hu with rfl | ⟨w, hw, hwu⟩
    · exact Or.inl hp
    · exact Or.inr ⟨w, hw, u, hwu, hp⟩
  · rintro (hp | ⟨w, hw, u, hwu, hp⟩)
    · exact ⟨v, Holds.refl v, hp⟩
    · exact ⟨u, hwu.child hw, hp⟩

theorem hasExternal_iff {v : Json} : v.HasExternal ↔
    (∃ r, v.reference? = some r ∧ Reference.IsExternal r) ∨ ∃ w ∈ v.children, w.HasExternal := by
  simpa only [HasExternal, exists_and_left] using
    exists_holds_iff (P := fun u => ∃ r, u.reference? = some r ∧ Reference.IsExternal r)

theorem Sees.refl (v : Json) : v.Sees v := Relation.ReflTransGen.refl

theorem Sees.child {v w : Json} {d : Json} (h : d.Sees v) (hr : v.reference? = none)
    (hw : w ∈ v.children) : d.Sees w :=
  Relation.ReflTransGen.tail h ⟨hr, hw⟩

theorem Sees.holds {v w : Json} (h : v.Sees w) : v.Holds w := by
  induction h with
  | refl => exact Holds.refl v
  | tail _ hs ih => exact Relation.ReflTransGen.tail ih hs.2

/-- What stands in a value is seen, or stands inside a reference object. -/
theorem sees_or_hidden {v w : Json} (h : v.Holds w) :
    v.Sees w ∨ ∃ u r x, v.Holds u ∧ u.reference? = some r ∧ x ∈ u.children ∧ x.Holds w := by
  induction h with
  | refl => exact Or.inl (Sees.refl v)
  | @tail w x hw hx ih =>
    rcases ih with hs | ⟨u, r, y, hu, hr, hy, hyw⟩
    · cases hr : w.reference? with
      | none => exact Or.inl (hs.child hr hx)
      | some r => exact Or.inr ⟨w, r, x, hw, hr, hx, Holds.refl x⟩
    · exact Or.inr ⟨u, r, y, hu, hr, hy, Relation.ReflTransGen.tail hyw hx⟩

theorem sees_of_not_hidesExternal {d h : Json} {r : String} (hd : ¬ d.HidesExternal)
    (hh : d.Holds h) (hr : h.reference? = some r) (hx : Reference.IsExternal r) : d.Sees h := by
  rcases sees_or_hidden hh with hs | ⟨u, r', x, hu, hr', hxu, hxh⟩
  · exact hs
  · exact absurd ⟨u, r', x, hu, hr', hxu, h, r, hxh, hr, hx⟩ hd

end Json

/-! ## Sites -/

namespace Reference

theorem mem_sitesOfMembers {ms : Members} {m : String × Json} (hm : m ∈ ms) {path : List String}
    {site : Site} (h : site ∈ sitesAt (path ++ [m.1]) m.2) : site ∈ sitesOfMembers path ms := by
  induction ms with
  | nil => simp at hm
  | cons n ms ih =>
    rw [sitesOfMembers, List.mem_append]
    rcases List.mem_cons.1 hm with rfl | hm
    · exact Or.inl h
    · exact Or.inr (ih hm)

theorem exists_index_of_mem {items : List Json} {v : Json} (hv : v ∈ items) (path : List String)
    (index : Nat) :
    ∃ i : Nat, ∀ site ∈ sitesAt (path ++ [toString i]) v, site ∈ sitesOfItems path index items := by
  induction items generalizing index with
  | nil => simp at hv
  | cons w items ih =>
    rcases List.mem_cons.1 hv with rfl | hv
    · refine ⟨index, fun site hs => ?_⟩
      rw [sitesOfItems, List.mem_append]
      exact Or.inl hs
    · obtain ⟨i, hi⟩ := ih hv (index + 1)
      refine ⟨i, fun site hs => ?_⟩
      rw [sitesOfItems, List.mem_append]
      exact Or.inr (hi site hs)

theorem sitesAt_of_reference {v : Json} {r : String} (h : v.reference? = some r)
    (path : List String) : sitesAt path v = [⟨path, r⟩] := by
  cases v with
  | obj ms => rw [sitesAt, h]
  | _ => simp [Json.reference?] at h

/-- Every reference that is seen from a document is one of its sites. -/
theorem exists_site_of_sees {d h : Json} {r : String} (hs : d.Sees h) (hr : h.reference? = some r) :
    ∃ site ∈ sites d, site.reference = r := by
  suffices hall : ∀ path, ∃ site ∈ sitesAt path d, site.reference = r from hall []
  induction hs using Relation.ReflTransGen.head_induction_on with
  | refl =>
    intro path
    rw [sitesAt_of_reference hr]
    exact ⟨⟨path, r⟩, List.mem_singleton.2 rfl, rfl⟩
  | @head v w hvw _ ih =>
    obtain ⟨hv, hw⟩ := hvw
    intro path
    cases v with
    | obj ms =>
      obtain ⟨m, hm, rfl⟩ := List.mem_map.1 hw
      obtain ⟨site, hsite, heq⟩ := ih (path ++ [m.1])
      rw [sitesAt, hv]
      exact ⟨site, mem_sitesOfMembers hm hsite, heq⟩
    | arr items =>
      obtain ⟨i, hi⟩ := exists_index_of_mem hw path 0
      obtain ⟨site, hsite, heq⟩ := ih (path ++ [toString i])
      rw [sitesAt]
      exact ⟨site, hi site hsite, heq⟩
    | _ => simp [Json.children] at hw

theorem exists_of_mem_sitesOfMembers {ms : Members} {path : List String} {site : Site}
    (h : site ∈ sitesOfMembers path ms) : ∃ m ∈ ms, site ∈ sitesAt (path ++ [m.1]) m.2 := by
  induction ms with
  | nil => cases h
  | cons m ms ih =>
    rw [sitesOfMembers, List.mem_append] at h
    rcases h with h | h
    · exact ⟨m, List.mem_cons_self, h⟩
    · obtain ⟨n, hn, hsite⟩ := ih h
      exact ⟨n, List.mem_cons_of_mem _ hn, hsite⟩

theorem exists_of_mem_sitesOfItems {items : List Json} {path : List String} {index : Nat}
    {site : Site} (h : site ∈ sitesOfItems path index items) :
    ∃ i v, items[i]? = some v ∧ site ∈ sitesAt (path ++ [toString (index + i)]) v := by
  induction items generalizing index with
  | nil => cases h
  | cons v items ih =>
    rw [sitesOfItems, List.mem_append] at h
    rcases h with h | h
    · exact ⟨0, v, rfl, h⟩
    · obtain ⟨i, w, hw, hsite⟩ := ih h
      refine ⟨i + 1, w, hw, ?_⟩
      rwa [Nat.add_right_comm, Nat.add_assoc] at hsite

/-- Every site of a document is a reference that is seen from it. -/
theorem exists_sees_of_site {d : Json} {path : List String} {site : Site}
    (h : site ∈ sitesAt path d) : ∃ v, d.Sees v ∧ v.reference? = some site.reference := by
  induction d using Json.children_induction generalizing path with
  | _ d ih =>
    cases hr : d.reference? with
    | some r =>
      rw [sitesAt_of_reference hr, List.mem_singleton] at h
      exact ⟨d, Json.Sees.refl d, h ▸ hr⟩
    | none =>
      have hchild : ∃ w ∈ d.children, ∃ path', site ∈ sitesAt path' w := by
        cases d with
        | obj ms =>
          rw [sitesAt, hr] at h
          obtain ⟨m, hm, hsite⟩ := exists_of_mem_sitesOfMembers h
          exact ⟨m.2, List.mem_map.2 ⟨m, hm, rfl⟩, _, hsite⟩
        | arr items =>
          rw [sitesAt] at h
          obtain ⟨i, w, hw, hsite⟩ := exists_of_mem_sitesOfItems h
          exact ⟨w, List.mem_of_getElem? hw, _, hsite⟩
        | _ => simp [sitesAt] at h
      obtain ⟨w, hw, path', hsite⟩ := hchild
      obtain ⟨v, hs, hv⟩ := ih w hw hsite
      exact ⟨v, Relation.ReflTransGen.head ⟨hr, hw⟩ hs, hv⟩

end Reference

/-! ## Pointers -/

namespace Pointer

/-- On the way along the segments stands no reference object; what they lead to may be one. -/
def IsStraight : List (List Char) → Json → Prop
  | [], _ => True
  | segment :: rest, v => v.reference? = none ∧ ∀ w, step? segment v = some w → IsStraight rest w

instance IsStraight.decidable : ∀ segments v, Decidable (IsStraight segments v)
  | [], _ => isTrue trivial
  | segment :: rest, v =>
    have : ∀ w, Decidable (IsStraight rest w) := IsStraight.decidable rest
    inferInstanceAs (Decidable (v.reference? = none ∧ ∀ w ∈ step? segment v, IsStraight rest w))

theorem step?_mem_children {segment : List Char} {v w : Json} (h : step? segment v = some w) :
    w ∈ v.children := by
  cases v with
  | obj ms => exact List.mem_map.2 ⟨_, Members.mem_of_get? h, rfl⟩
  | arr items =>
    obtain ⟨i, _, hi⟩ := Option.bind_eq_some_iff.1 h
    exact List.mem_of_getElem? hi
  | _ => simp [step?] at h

theorem holds_of_follow {segments : List (List Char)} {v w : Json}
    (h : follow? segments v = some w) : v.Holds w := by
  induction segments generalizing v with
  | nil => rw [← Option.some.inj h]; exact Json.Holds.refl v
  | cons segment rest ih =>
    obtain ⟨u, hu, hw⟩ := Option.bind_eq_some_iff.1 h
    exact (ih hw).child (step?_mem_children hu)

theorem sees_of_follow {segments : List (List Char)} {d v w : Json} (hd : d.Sees v)
    (hs : IsStraight segments v) (h : follow? segments v = some w) : d.Sees w := by
  induction segments generalizing v with
  | nil => rw [← Option.some.inj h]; exact hd
  | cons segment rest ih =>
    obtain ⟨u, hu, hw⟩ := Option.bind_eq_some_iff.1 h
    exact ih (hd.child hs.1 (step?_mem_children hu)) (hs.2 u hu) hw

end Pointer

/-- The pointer passes no reference object on its way through a value. -/
def Json.IsStraight (v : Json) (pointer : String) : Prop :=
  ∀ ss, Pointer.segments? pointer.toList = some ss → Pointer.IsStraight ss v

instance (v : Json) (pointer : String) : Decidable (v.IsStraight pointer) :=
  inferInstanceAs (Decidable (∀ ss ∈ Pointer.segments? pointer.toList, Pointer.IsStraight ss v))

theorem Json.holds_of_pointer {v w : Json} {pointer : String} (h : v.pointer? pointer = some w) :
    v.Holds w := by
  obtain ⟨ss, _, hw⟩ := Option.bind_eq_some_iff.1 h
  exact Pointer.holds_of_follow hw

theorem Json.sees_of_pointer {v w : Json} {pointer : String} (hs : v.IsStraight pointer)
    (h : v.pointer? pointer = some w) : v.Sees w := by
  obtain ⟨ss, hss, hw⟩ := Option.bind_eq_some_iff.1 h
  exact Pointer.sees_of_follow (Json.Sees.refl v) (hs ss hss) hw

end MessageContract
