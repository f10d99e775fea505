import Mathlib.Data.List.Nodup
import MessageContract.Json.Basic

/-!
# Members of objects

What is found under a name after a name is set or taken away, and after values are changed one by
one. Taking a name away moves the last member; where names are distinct, nothing else changes.
-/

namespace MessageContract.Members

section Cases

variable (k name : String) (v value : Json) (entry : String × Json) (rest : Members)

@[simp] theorem get?_nil : Members.get? [] name = none := rfl

theorem get?_cons : Members.get? ((k, v) :: rest) name =
    if k = name then some v else Members.get? rest name := rfl

@[simp] theorem insert_nil : Members.insert [] name value = [(name, value)] := rfl

theorem insert_cons : Members.insert ((k, v) :: rest) name value =
    if k = name then (k, value) :: rest else (k, v) :: Members.insert rest name value := rfl

@[simp] theorem replace_nil : Members.replace [] name entry = [] := rfl

theorem replace_cons : Members.replace ((k, v) :: rest) name entry =
    if k = name then entry :: rest else (k, v) :: Members.replace rest name entry := rfl

end Cases

/-! ## Finding a name -/

theorem mem_of_get? {ms : Members} {name : String} {v : Json} (h : Members.get? ms name = some v) :
    (name, v) ∈ ms := by
  induction ms with
  | nil => simp at h
  | cons m ms ih =>
    obtain ⟨k, w⟩ := m
    rw [get?_cons] at h
    split at h
    · next hk => rw [← hk, Option.some.inj h]; exact List.mem_cons_self
    · exact List.mem_cons_of_mem _ (ih h)

/-- Members that are changed one by one keep their names. -/
theorem get?_map (f : String → Json → Json) (ms : Members) (name : String) :
    Members.get? (ms.map fun m => (m.1, f m.1 m.2)) name = (Members.get? ms name).map (f name) := by
  induction ms with
  | nil => rfl
  | cons m ms ih =>
    obtain ⟨k, w⟩ := m
    rw [List.map_cons, get?_cons, get?_cons]
    split
    · next hk => rw [hk, Option.map_some]
    · exact ih

theorem get?_eq_none_iff {ms : Members} {name : String} :
    Members.get? ms name = none ↔ name ∉ ms.map (·.1) := by
  induction ms with
  | nil => simp
  | cons m ms ih =>
    obtain ⟨k, w⟩ := m
    rw [get?_cons, List.map_cons, List.mem_cons, not_or]
    split
    · next hk => exact iff_of_false (by simp) fun h => h.1 hk.symm
    · next hk => rw [ih, and_iff_right (Ne.symm hk)]

theorem get?_append (ms ns : Members) (name : String) :
    Members.get? (ms ++ ns) name = (Members.get? ms name).or (Members.get? ns name) := by
  induction ms with
  | nil => simp
  | cons m ms ih =>
    obtain ⟨k, w⟩ := m
    rw [List.cons_append, get?_cons, get?_cons]
    split
    · rfl
    · exact ih

/-- Members that are taken out by their names are not found. -/
theorem get?_filter (keep : String → Bool) (ms : Members) (name : String) :
    Members.get? (ms.filter fun m => keep m.1) name =
      if keep name then Members.get? ms name else none := by
  induction ms with
  | nil => simp
  | cons m ms ih =>
    obtain ⟨k, w⟩ := m
    rw [List.filter_cons]
    by_cases hk : k = name
    · subst hk
      by_cases hkeep : keep k = true
      · simp [hkeep, get?_cons]
      · simp [hkeep, ih]
    · by_cases hkeep : keep k = true
      · simp [hkeep, get?_cons, hk, ih]
      · simp [hkeep, get?_cons, hk, ih]

/-! ## Setting a name -/

theorem get?_insert_self (ms : Members) (name : String) (v : Json) :
    Members.get? (Members.insert ms name v) name = some v := by
  induction ms with
  | nil => simp [get?_cons]
  | cons m ms ih =>
    obtain ⟨k, w⟩ := m
    rw [insert_cons]
    split
    · next hk => rw [get?_cons, if_pos hk]
    · next hk => rw [get?_cons, if_neg hk, ih]

theorem get?_insert_ne (ms : Members) {name k : String} (hk : k ≠ name) (v : Json) :
    Members.get? (Members.insert ms name v) k = Members.get? ms k := by
  induction ms with
  | nil => simp [get?_cons, Ne.symm hk]
  | cons m ms ih =>
    obtain ⟨k', w⟩ := m
    rw [insert_cons]
    split
    · next hname =>
      have hne : k' ≠ k := fun h => hk (h.symm.trans hname)
      rw [get?_cons, get?_cons, if_neg hne, if_neg hne]
    · rw [get?_cons, get?_cons, ih]

theorem insert_names (ms : Members) (name : String) (v : Json) :
    (Members.insert ms name v).map (·.1) =
      if name ∈ ms.map (·.1) then ms.map (·.1) else ms.map (·.1) ++ [name] := by
  induction ms with
  | nil => simp
  | cons m ms ih =>
    obtain ⟨k, w⟩ := m
    rw [insert_cons]
    split
    · next hk => simp [hk]
    · next hk =>
      rw [List.map_cons, ih, List.map_cons]
      by_cases hmem : name ∈ ms.map (·.1)
      · rw [if_pos hmem, if_pos (List.mem_cons_of_mem _ hmem)]
      · rw [if_neg hmem, if_neg (by simpa [Ne.symm hk] using hmem), List.cons_append]

/-- A new name is set at the end. -/
theorem insert_of_fresh {ms : Members} {name : String} (h : name ∉ ms.map (·.1)) (v : Json) :
    Members.insert ms name v = ms ++ [(name, v)] := by
  induction ms with
  | nil => rfl
  | cons m ms ih =>
    obtain ⟨k, w⟩ := m
    rw [List.map_cons, List.mem_cons, not_or] at h
    rw [insert_cons, if_neg (Ne.symm h.1), ih h.2, List.cons_append]

theorem nodup_insert {ms : Members} (h : (ms.map (·.1)).Nodup) (name : String) (v : Json) :
    ((Members.insert ms name v).map (·.1)).Nodup := by
  rw [insert_names]
  split
  · exact h
  · next hmem => exact List.nodup_append.2 ⟨h, List.nodup_singleton _, by
      rintro a ha b hb rfl
      exact hmem (List.mem_singleton.1 hb ▸ ha)⟩

theorem insert_map (f : String → Json → Json) (ms : Members) (name : String) (v : Json) :
    (Members.insert ms name v).map (fun m => (m.1, f m.1 m.2)) =
      Members.insert (ms.map fun m => (m.1, f m.1 m.2)) name (f name v) := by
  induction ms with
  | nil => rfl
  | cons m ms ih =>
    obtain ⟨k, w⟩ := m
    rw [List.map_cons, insert_cons, insert_cons]
    split
    · next hk => rw [List.map_cons, hk]
    · rw [List.map_cons, ih]

theorem mem_insert {ms : Members} {name : String} {v : Json} {m : String × Json}
    (h : m ∈ Members.insert ms name v) : m = (name, v) ∨ m ∈ ms := by
  induction ms with
  | nil => exact Or.inl (List.mem_singleton.1 h)
  | cons n ms ih =>
    obtain ⟨k, w⟩ := n
    rw [insert_cons] at h
    split at h
    · next hk =>
      rcases List.mem_cons.1 h with rfl | h
      · exact Or.inl (by rw [hk])
      · exact Or.inr (List.mem_cons_of_mem _ h)
    · rcases List.mem_cons.1 h with rfl | h
      · exact Or.inr List.mem_cons_self
      · exact (ih h).imp_right (List.mem_cons_of_mem _)

theorem mem_insert_of_mem {ms : Members} {m : String × Json} (h : m ∈ ms) (name : String)
    (v : Json) : m ∈ Members.insert ms name v ∨ Members.get? ms name = some m.2 := by
  induction ms with
  | nil => cases h
  | cons n ms ih =>
    obtain ⟨k, w⟩ := n
    rw [insert_cons, get?_cons]
    split
    · rcases List.mem_cons.1 h with rfl | h
      · exact Or.inr rfl
      · exact Or.inl (List.mem_cons_of_mem _ h)
    · rcases List.mem_cons.1 h with rfl | h
      · exact Or.inl List.mem_cons_self
      · exact (ih h).imp_left (List.mem_cons_of_mem _)

/-! ## Taking a name away -/

theorem replace_names (ms : Members) (name : String) (entry : String × Json) :
    ∀ k ∈ (Members.replace ms name entry).map (·.1), k = entry.1 ∨ k ∈ ms.map (·.1) := by
  induction ms with
  | nil => simp
  | cons m ms ih =>
    obtain ⟨k, w⟩ := m
    rw [replace_cons]
    split
    · intro k' hk'
      rcases List.mem_cons.1 hk' with rfl | hk'
      · exact Or.inl rfl
      · exact Or.inr (List.mem_cons_of_mem _ hk')
    · intro k' hk'
      rcases List.mem_cons.1 hk' with rfl | hk'
      · exact Or.inr List.mem_cons_self
      · exact (ih k' hk').imp_right (List.mem_cons_of_mem _)

theorem nodup_replace {ms : Members} (h : (ms.map (·.1)).Nodup) (name : String)
    {entry : String × Json} (hentry : entry.1 ∉ ms.map (·.1)) :
    ((Members.replace ms name entry).map (·.1)).Nodup := by
  induction ms with
  | nil => simp
  | cons m ms ih =>
    obtain ⟨k, w⟩ := m
    rw [List.map_cons, List.nodup_cons] at h
    rw [List.map_cons, List.mem_cons, not_or] at hentry
    rw [replace_cons]
    split
    · exact List.nodup_cons.2 ⟨hentry.2, h.2⟩
    · refine List.nodup_cons.2 ⟨fun hk => ?_, ih h.2 hentry.2⟩
      rcases replace_names ms name entry k hk with heq | hmem
      · exact hentry.1 heq.symm
      · exact h.1 hmem

theorem get?_replace {ms : Members} (h : (ms.map (·.1)).Nodup) {name : String}
    (hname : name ∈ ms.map (·.1)) {entry : String × Json} (hentry : entry.1 ∉ ms.map (·.1))
    (k : String) : Members.get? (Members.replace ms name entry) k =
      if k = entry.1 then some entry.2 else if k = name then none else Members.get? ms k := by
  induction ms with
  | nil => cases hname
  | cons m ms ih =>
    obtain ⟨k', w⟩ := m
    rw [List.map_cons, List.nodup_cons] at h
    rw [List.map_cons, List.mem_cons, not_or] at hentry
    obtain ⟨e, x⟩ := entry
    rw [replace_cons]
    split
    · next hk =>
      subst hk
      rw [get?_cons, get?_cons]
      by_cases hke : k = e
      · rw [if_pos hke.symm, if_pos hke]
      · rw [if_neg (Ne.symm hke), if_neg hke]
        by_cases hkk : k = k'
        · rw [if_pos hkk, hkk]
          exact get?_eq_none_iff.2 h.1
        · rw [if_neg hkk, if_neg (Ne.symm hkk)]
    · next hk =>
      have hrest : name ∈ ms.map (·.1) := by
        rcases List.mem_cons.1 hname with heq | hmem
        · exact absurd heq.symm hk
        · exact hmem
      rw [get?_cons, get?_cons]
      by_cases hkk : k' = k
      · subst hkk
        rw [if_pos rfl, if_pos rfl, if_neg (fun h => hentry.1 h.symm), if_neg hk]
      · rw [if_neg hkk, if_neg hkk]
        exact ih h.2 hrest hentry.2

theorem swapRemove_concat (init : Members) (last : String × Json) (name : String) :
    Members.swapRemove (init ++ [last]) name =
      if last.1 = name then init
      else if (Members.get? init name).isSome then Members.replace init name last
      else init ++ [last] := by
  rw [Members.swapRemove, List.getLast?_concat]
  simp only [List.dropLast_concat]
  split
  · rfl
  · next hlast =>
    rw [get?_append, get?_cons, if_neg hlast, get?_nil, Option.or_none]

/-- With distinct names nothing but the name is taken away. -/
theorem get?_swapRemove {ms : Members} (h : (ms.map (·.1)).Nodup) (name k : String) :
    Members.get? (Members.swapRemove ms name) k =
      if k = name then none else Members.get? ms k := by
  rcases List.eq_nil_or_concat' ms with rfl | ⟨init, last, rfl⟩
  · simp [Members.swapRemove]
  rw [List.map_append, List.nodup_append] at h
  obtain ⟨hinit, _, hdisjoint⟩ := h
  have hlast : last.1 ∉ init.map (·.1) := fun hmem =>
    hdisjoint _ hmem last.1 (List.mem_singleton.2 rfl) rfl
  have hget : Members.get? (init ++ [last]) k =
      if k = last.1 then some last.2 else Members.get? init k := by
    rw [get?_append, get?_cons]
    by_cases hk : k = last.1
    · rw [if_pos hk, hk, get?_eq_none_iff.2 hlast, if_pos rfl, Option.none_or]
    · rw [if_neg hk, if_neg (Ne.symm hk), get?_nil, Option.or_none]
  rw [swapRemove_concat, hget]
  split
  · next hname =>
    subst hname
    by_cases hk : k = last.1
    · rw [if_pos hk, hk]
      exact get?_eq_none_iff.2 hlast
    · rw [if_neg hk, if_neg hk]
  · next hname =>
    split
    · next hsome =>
      have hmem : name ∈ init.map (·.1) := by
        by_contra hnot
        rw [get?_eq_none_iff.2 hnot] at hsome
        cases hsome
      rw [get?_replace hinit hmem hlast]
      by_cases hk : k = last.1
      · rw [if_pos hk, if_pos hk, if_neg fun h => hname (hk.symm.trans h)]
      · rw [if_neg hk, if_neg hk]
    · next hnone =>
      rw [hget]
      by_cases hk : k = name
      · subst hk
        rw [if_neg (Ne.symm hname), if_pos rfl]
        exact Option.not_isSome_iff_eq_none.1 hnone
      · rw [if_neg hk]

theorem nodup_swapRemove {ms : Members} (h : (ms.map (·.1)).Nodup) (name : String) :
    ((Members.swapRemove ms name).map (·.1)).Nodup := by
  rcases List.eq_nil_or_concat' ms with rfl | ⟨init, last, rfl⟩
  · simp [Members.swapRemove]
  rw [swapRemove_concat]
  have hparts := h
  rw [List.map_append, List.nodup_append] at hparts
  obtain ⟨hinit, _, hdisjoint⟩ := hparts
  split
  · exact hinit
  · split
    · exact nodup_replace hinit name fun hmem =>
        hdisjoint _ hmem last.1 (List.mem_singleton.2 rfl) rfl
    · exact h

theorem replace_map (f : String → Json → Json) (ms : Members) (name : String)
    (entry : String × Json) :
    (Members.replace ms name entry).map (fun m => (m.1, f m.1 m.2)) =
      Members.replace (ms.map fun m => (m.1, f m.1 m.2)) name (entry.1, f entry.1 entry.2) := by
  induction ms with
  | nil => rfl
  | cons m ms ih =>
    obtain ⟨k, w⟩ := m
    rw [List.map_cons, replace_cons, replace_cons]
    split
    · rfl
    · rw [List.map_cons, ih]

theorem swapRemove_map (f : String → Json → Json) (ms : Members) (name : String) :
    (Members.swapRemove ms name).map (fun m => (m.1, f m.1 m.2)) =
      Members.swapRemove (ms.map fun m => (m.1, f m.1 m.2)) name := by
  rcases List.eq_nil_or_concat' ms with rfl | ⟨init, last, rfl⟩
  · rfl
  rw [List.map_append, List.map_singleton, swapRemove_concat, swapRemove_concat, get?_map,
    Option.isSome_map]
  split
  · rfl
  · split
    · exact replace_map f init name last
    · rw [List.map_append, List.map_singleton]

end MessageContract.Members
