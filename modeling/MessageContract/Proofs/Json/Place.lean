import MessageContract.Proofs.DistinctNames
import MessageContract.Proofs.Json.Pointer

/-!
# Places in a value

A path of names and indices leads to a place in a value (`Json.at?`). The places of a value in
depth-first order (`Json.places`) are all that paths lead to (`Json.at?_of_mem_places`), and where
names are distinct each is listed once (`Json.nodup_places`).
-/

namespace MessageContract

namespace Members

/-- Where names are distinct every member is found under its name. -/
theorem get?_of_mem {ms : Members} (h : (ms.map (·.1)).Nodup) {m : String × Json} (hm : m ∈ ms) :
    Members.get? ms m.1 = some m.2 := by
  induction ms with
  | nil => cases hm
  | cons n ms ih =>
    obtain ⟨k, w⟩ := n
    rw [List.map_cons, List.nodup_cons] at h
    rw [Members.get?_cons]
    rcases List.mem_cons.1 hm with rfl | hm
    · exact if_pos rfl
    · have hmem : m.1 ∈ ms.map (·.1) := List.mem_map.2 ⟨m, hm, rfl⟩
      have hne : k ≠ m.1 := by
        intro hk
        exact h.1 (hk ▸ hmem)
      rw [if_neg hne]
      exact ih h.2 hm

end Members

namespace Json

/-! ## Following a path -/

/-- The value that names and indices lead to. -/
def at? (v : Json) (path : List String) : Option Json :=
  Pointer.follow? (path.map String.toList) v

@[simp]
theorem at?_nil (v : Json) : v.at? [] = some v := rfl

theorem at?_append (v : Json) (path path' : List String) :
    v.at? (path ++ path') = (v.at? path).bind (·.at? path') := by
  rw [at?, List.map_append, Pointer.follow?_append]
  rfl

theorem at?_member {ms : Members} (h : (ms.map (·.1)).Nodup) {m : String × Json} (hm : m ∈ ms)
    (path : List String) : (Json.obj ms).at? (m.1 :: path) = m.2.at? path := by
  have hget := Members.get?_of_mem h hm
  simp [at?, Pointer.follow?, Pointer.step?, hget]

theorem at?_item {items : List Json} {i : Nat} {v : Json} (h : items[i]? = some v)
    (path : List String) : (Json.arr items).at? (toString i :: path) = v.at? path := by
  have hindex := Pointer.index?_toString i
  simp only [at?, List.map_cons, Pointer.follow?, Pointer.step?, hindex, Option.bind_some, h]

/-! ## Depth-first order -/

/-- A place one name or index further down. -/
def inside (name : String) (place : List String × Json) : List String × Json :=
  (name :: place.1, place.2)

mutual

/-- All places of a value with what stands there: itself, and then those in each of its parts. -/
def places : Json → List (List String × Json)
  | .arr items => ([], .arr items) :: placesOfItems 0 items
  | .obj ms => ([], .obj ms) :: placesOfMembers ms
  | v => [([], v)]

def placesOfItems (index : Nat) : List Json → List (List String × Json)
  | [] => []
  | v :: rest => v.places.map (inside (toString index)) ++ placesOfItems (index + 1) rest

def placesOfMembers : List (String × Json) → List (List String × Json)
  | [] => []
  | (k, v) :: rest => v.places.map (inside k) ++ placesOfMembers rest

end

/-- A value stands first among its places. -/
theorem singleton_sublist_places (v : Json) : List.Sublist [([], v)] v.places := by
  cases v <;> simp [places]

theorem exists_of_mem_placesOfMembers {ms : Members} {place : List String × Json}
    (h : place ∈ placesOfMembers ms) : ∃ m ∈ ms, ∃ x ∈ m.2.places, place = inside m.1 x := by
  induction ms with
  | nil => cases h
  | cons m ms ih =>
    rw [placesOfMembers] at h
    rcases List.mem_append.1 h with h | h
    · obtain ⟨x, hx, rfl⟩ := List.mem_map.1 h
      exact ⟨m, List.mem_cons_self, x, hx, rfl⟩
    · obtain ⟨n, hn, hplace⟩ := ih h
      exact ⟨n, List.mem_cons_of_mem _ hn, hplace⟩

theorem exists_of_mem_placesOfItems {items : List Json} {index : Nat}
    {place : List String × Json} (h : place ∈ placesOfItems index items) :
    ∃ i v, items[i]? = some v ∧ ∃ x ∈ v.places, place = inside (toString (index + i)) x := by
  induction items generalizing index with
  | nil => cases h
  | cons v items ih =>
    rw [placesOfItems] at h
    rcases List.mem_append.1 h with h | h
    · obtain ⟨x, hx, rfl⟩ := List.mem_map.1 h
      exact ⟨0, v, rfl, x, hx, rfl⟩
    · obtain ⟨i, w, hw, x, hx, rfl⟩ := ih h
      refine ⟨i + 1, w, hw, x, hx, ?_⟩
      rw [Nat.add_right_comm, Nat.add_assoc]

/-- Each place is where its path leads. -/
theorem at?_of_mem_places {v : Json} (hv : v.HasDistinctNames) {place : List String × Json}
    (h : place ∈ v.places) : v.at? place.1 = some place.2 := by
  induction v using children_induction generalizing place with
  | _ v ih =>
    cases v with
    | obj ms =>
      rw [places] at h
      rcases List.mem_cons.1 h with rfl | h
      · rfl
      · obtain ⟨m, hm, x, hx, rfl⟩ := exists_of_mem_placesOfMembers h
        have hmem : m.2 ∈ (Json.obj ms).children := List.mem_map.2 ⟨m, hm, rfl⟩
        rw [inside, at?_member hv.nodup hm]
        exact ih m.2 hmem (hv.member hm) hx
    | arr items =>
      rw [places] at h
      rcases List.mem_cons.1 h with rfl | h
      · rfl
      · obtain ⟨i, w, hw, x, hx, rfl⟩ := exists_of_mem_placesOfItems h
        have hmem : w ∈ (Json.arr items).children := List.mem_of_getElem? hw
        rw [inside, Nat.zero_add, at?_item hw]
        exact ih w hmem (hv.child hmem) hx
    | _ =>
      rw [List.mem_singleton.1 h]
      rfl

/-- Paths that begin with different names are different. -/
theorem nodup_inside_append {name : String} {xs ys : List (List String × Json)}
    (hxs : (xs.map (·.1)).Nodup) (hys : (ys.map (·.1)).Nodup)
    (hne : ∀ y ∈ ys, y.1.head? ≠ some name) :
    ((xs.map (inside name) ++ ys).map (·.1)).Nodup := by
  rw [List.map_append, List.map_map, List.nodup_append]
  refine ⟨?_, hys, ?_⟩
  · have hcons : (fun x => (inside name x).1) = List.cons name ∘ fun x : List String × Json => x.1 :=
      rfl
    show (xs.map fun x => (inside name x).1).Nodup
    rw [hcons, ← List.map_map]
    exact hxs.map (List.cons_injective)
  · intro a ha b hb heq
    obtain ⟨x, _, rfl⟩ := List.mem_map.1 ha
    obtain ⟨y, hy, rfl⟩ := List.mem_map.1 hb
    apply hne y hy
    rw [← heq]
    rfl

theorem nodup_placesOfMembers {ms : Members} (h : (ms.map (·.1)).Nodup)
    (hms : ∀ m ∈ ms, (m.2.places.map (·.1)).Nodup) : ((placesOfMembers ms).map (·.1)).Nodup := by
  induction ms with
  | nil => exact List.nodup_nil
  | cons m ms ih =>
    obtain ⟨hm, hrest⟩ := List.forall_mem_cons.1 hms
    rw [List.map_cons, List.nodup_cons] at h
    rw [placesOfMembers]
    refine nodup_inside_append hm (ih h.2 hrest) fun y hy hhead => ?_
    obtain ⟨n, hn, x, _, rfl⟩ := exists_of_mem_placesOfMembers hy
    have hname : n.1 = m.1 := by simpa [inside] using hhead
    exact h.1 (hname ▸ List.mem_map.2 ⟨n, hn, rfl⟩)

theorem nodup_placesOfItems {items : List Json} (index : Nat)
    (hitems : ∀ v ∈ items, (v.places.map (·.1)).Nodup) :
    ((placesOfItems index items).map (·.1)).Nodup := by
  induction items generalizing index with
  | nil => exact List.nodup_nil
  | cons v items ih =>
    obtain ⟨hv, hrest⟩ := List.forall_mem_cons.1 hitems
    rw [placesOfItems]
    refine nodup_inside_append hv (ih (index + 1) hrest) fun y hy hhead => ?_
    obtain ⟨i, w, _, x, _, rfl⟩ := exists_of_mem_placesOfItems hy
    have htext : toString (index + 1 + i) = toString index := by simpa [inside] using hhead
    have hindex := congrArg (fun s : String => Pointer.index? s.toList) htext
    simp only [Pointer.index?_toString, Option.some.injEq] at hindex
    omega

/-- Where names are distinct no place is listed twice. -/
theorem nodup_places {v : Json} (hv : v.HasDistinctNames) : (v.places.map (·.1)).Nodup := by
  induction v using children_induction with
  | _ v ih =>
    cases v with
    | obj ms =>
      have hms : ∀ m ∈ ms, (m.2.places.map (·.1)).Nodup := by
        intro m hm
        exact ih m.2 (List.mem_map.2 ⟨m, hm, rfl⟩) (hv.member hm)
      rw [places, List.map_cons, List.nodup_cons]
      refine ⟨fun hmem => ?_, nodup_placesOfMembers hv.nodup hms⟩
      obtain ⟨x, hx, hnil⟩ := List.mem_map.1 hmem
      obtain ⟨_, _, _, _, rfl⟩ := exists_of_mem_placesOfMembers hx
      exact List.cons_ne_nil _ _ hnil
    | arr items =>
      have hitems : ∀ w ∈ items, (w.places.map (·.1)).Nodup :=
        fun w hw => ih w hw (hv.child hw)
      rw [places, List.map_cons, List.nodup_cons]
      refine ⟨fun hmem => ?_, nodup_placesOfItems 0 hitems⟩
      obtain ⟨x, hx, hnil⟩ := List.mem_map.1 hmem
      obtain ⟨_, _, _, _, _, rfl⟩ := exists_of_mem_placesOfItems hx
      exact List.cons_ne_nil _ _ hnil
    | _ => exact List.nodup_singleton _

end Json
end MessageContract
