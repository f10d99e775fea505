import MessageContract.Proofs.Json.Place
import MessageContract.Proofs.Schema.OpenApi

/-!
# Where the conversion goes

The conversion of OpenAPI schemas goes from a schema object into the schemas under some of its
keywords (`OpenApi.Within`), and so on (`OpenApi.Visits`). It comes to the same places before and
after, and what stands there after is the conversion of what stood there before
(`OpenApi.visits_convert_iff`).
-/

namespace MessageContract.OpenApi

/-- A schema in a schema object that the conversion goes into, and the way to it. -/
inductive Within (ms : Members) : List String → Json → Prop
  | entry {k name : String} {ps : Members} {x : Json} (keyword : k ∈ mapKeywords)
      (found : Members.get? ms k = some (.obj ps)) (member : Members.get? ps name = some x) :
      Within ms [k, name] x
  | value {k : String} {x : Json} (keyword : k ∈ schemaKeywords)
      (found : Members.get? ms k = some x) : Within ms [k] x
  | item {k : String} {xs : List Json} {i : Nat} {x : Json} (keyword : k ∈ listKeywords)
      (found : Members.get? ms k = some (.arr xs)) (item : xs[i]? = some x) :
      Within ms [k, toString i] x

/-- The conversion of a schema comes to a value by a path. -/
inductive Visits : Json → List String → Json → Prop
  | here (v : Json) : Visits v [] v
  | inside {ms : Members} {path path' : List String} {x y : Json} (step : Within ms path x)
      (rest : Visits x path' y) : Visits (.obj ms) (path ++ path') y

variable {ms : Members} {v x y : Json} {path : List String}

/-! ## Paths -/

theorem Within.mem_children (h : Within ms path x) : ∃ w ∈ (Json.obj ms).children,
    x = w ∨ x ∈ w.children := by
  have hmember : ∀ {k : String} {w : Json}, Members.get? ms k = some w →
      w ∈ (Json.obj ms).children := fun h => List.mem_map.2 ⟨_, Members.mem_of_get? h, rfl⟩
  cases h with
  | entry _ found member =>
    exact ⟨_, hmember found, Or.inr (List.mem_map.2 ⟨_, Members.mem_of_get? member, rfl⟩)⟩
  | value _ found => exact ⟨_, hmember found, Or.inl rfl⟩
  | item _ found item => exact ⟨_, hmember found, Or.inr (List.mem_of_getElem? item)⟩

theorem Within.holds (h : Within ms path x) : (Json.obj ms).Holds x := by
  obtain ⟨w, hw, rfl | hx⟩ := h.mem_children
  · exact (Json.Holds.refl x).child hw
  · exact ((Json.Holds.refl x).child hx).child hw

theorem Visits.holds (h : Visits v path y) : v.Holds y := by
  induction h with
  | here => exact Json.Holds.refl _
  | inside step _ ih => exact step.holds.trans ih

/-- The path leads to the value. -/
theorem Within.at? (h : Within ms path x) : (Json.obj ms).at? path = some x := by
  cases h with
  | entry _ found member =>
    simp [Json.at?, Pointer.follow?, Pointer.step?, found, member]
  | value _ found => simp [Json.at?, Pointer.follow?, Pointer.step?, found]
  | @item _ _ i _ _ found item =>
    have hindex := Pointer.index?_toString i
    simp only [Json.at?, List.map_cons, List.map_nil, Pointer.follow?, Pointer.step?,
      String.ofList_toList, found, Option.bind_some, hindex, item]

theorem Visits.at? (h : Visits v path y) : v.at? path = some y := by
  induction h with
  | here => rfl
  | inside step _ ih => rw [Json.at?_append, step.at?, Option.bind_some, ih]

/-- What is visited at a first step is visited on the whole. -/
theorem Visits.of_within (h : Within ms path x) : Visits (.obj ms) path x := by
  have hvisits := Visits.inside h (.here x)
  rwa [List.append_nil] at hvisits

/-! ## Before and after -/

theorem nodup_allowNull {out : Members} (h : (out.map (·.1)).Nodup) :
    ((allowNull out).map (·.1)).Nodup := by
  have htype : ((typeWithNull out).map (·.1)).Nodup := by
    unfold typeWithNull
    split
    · exact Members.nodup_insert h _ _
    · exact h
  unfold allowNull enumWithNull
  split
  · exact Members.nodup_insert htype _ _
  · exact htype

/-- A converted object has no name twice. -/
theorem nodup_convert (h : (ms.map (·.1)).Nodup) :
    ((finish ms (convertKeywords ms)).map (·.1)).Nodup := by
  have hbounded : ((bounded ms (convertKeywords ms)).map (·.1)).Nodup :=
    nodup_setStrictBound (nodup_setStrictBound (nodup_convertKeywords h))
  rw [finish_eq]
  split
  · exact nodup_allowNull hbounded
  · exact hbounded

theorem convertValue_eq_obj {k : String} (hk : k ∈ mapKeywords) {ps : Members} :
    convertValue k v = .obj ps ↔ ∃ qs, v = .obj qs ∧ ps = convertEach qs := by
  have hmap : mapKeywords.contains k = true := List.contains_iff_mem.2 hk
  cases v with
  | obj qs =>
    rw [convertValue, hmap, if_pos rfl]
    constructor
    · intro h
      exact ⟨qs, rfl, (Json.obj.inj h).symm⟩
    · rintro ⟨_, h, rfl⟩
      rw [Json.obj.inj h]
  | arr xs =>
    rw [convertValue]
    refine iff_of_false (fun h => ?_) (by simp)
    split at h <;> cases h
  | _ => simp [convertValue]

theorem convertValue_eq_arr {k : String} (hk : k ∈ listKeywords) {xs : List Json} :
    convertValue k v = .arr xs ↔ ∃ ys, v = .arr ys ∧ xs = ys.map convert := by
  have hlist : listKeywords.contains k = true := List.contains_iff_mem.2 hk
  cases v with
  | arr ys =>
    rw [convertValue, hlist, if_pos rfl, convertAll_eq]
    constructor
    · intro h
      exact ⟨ys, rfl, (Json.arr.inj h).symm⟩
    · rintro ⟨_, h, rfl⟩
      rw [Json.arr.inj h]
  | obj ms =>
    rw [convertValue]
    refine iff_of_false (fun h => ?_) (by simp)
    split at h
    · cases h
    · split at h <;> cases h
  | _ => simp [convertValue]

theorem get?_convertEach (ps : Members) (name : String) :
    Members.get? (convertEach ps) name = (Members.get? ps name).map convert := by
  rw [convertEach_eq]
  exact Members.get?_map (fun _ => convert) ps name

/-- The schemas in a converted object are those in the object, converted. -/
theorem within_convert_iff (hms : (ms.map (·.1)).Nodup) :
    Within (finish ms (convertKeywords ms)) path y ↔ ∃ x, Within ms path x ∧ y = convert x := by
  have hget : ∀ k ∈ mapKeywords ++ schemaKeywords ++ listKeywords,
      Members.get? (finish ms (convertKeywords ms)) k = (Members.get? ms k).map (convertValue k) :=
    fun k hk => get?_convert hms (by revert k; decide) (by revert k; decide)
  have hmap : ∀ k ∈ mapKeywords, k ∈ mapKeywords ++ schemaKeywords ++ listKeywords := by decide
  have hschema : ∀ k ∈ schemaKeywords, k ∈ mapKeywords ++ schemaKeywords ++ listKeywords := by
    decide
  have hlist : ∀ k ∈ listKeywords, k ∈ mapKeywords ++ schemaKeywords ++ listKeywords := by decide
  have hvalue : ∀ k ∈ schemaKeywords, (Members.get? ms k).map (convertValue k) =
      (Members.get? ms k).map convert := fun k hk => map_convertValue hk _
  constructor
  · intro h
    cases h with
    | entry keyword found member =>
      rw [hget _ (hmap _ keyword)] at found
      obtain ⟨w, hw, hobj⟩ := Option.map_eq_some_iff.1 found
      obtain ⟨qs, rfl, rfl⟩ := (convertValue_eq_obj keyword).1 hobj
      rw [get?_convertEach] at member
      obtain ⟨x, hx, rfl⟩ := Option.map_eq_some_iff.1 member
      exact ⟨x, .entry keyword hw hx, rfl⟩
    | value keyword found =>
      rw [hget _ (hschema _ keyword), hvalue _ keyword] at found
      obtain ⟨x, hx, rfl⟩ := Option.map_eq_some_iff.1 found
      exact ⟨x, .value keyword hx, rfl⟩
    | item keyword found item =>
      rw [hget _ (hlist _ keyword)] at found
      obtain ⟨w, hw, harr⟩ := Option.map_eq_some_iff.1 found
      obtain ⟨ys, rfl, rfl⟩ := (convertValue_eq_arr keyword).1 harr
      rw [List.getElem?_map] at item
      obtain ⟨x, hx, rfl⟩ := Option.map_eq_some_iff.1 item
      exact ⟨x, .item keyword hw hx, rfl⟩
  · rintro ⟨x, h, rfl⟩
    cases h with
    | @entry _ _ ps _ keyword found member =>
      have hobj := (convertValue_eq_obj keyword).2 ⟨ps, rfl, rfl⟩
      refine .entry keyword ?_ (by rw [get?_convertEach, member]; rfl)
      rw [hget _ (hmap _ keyword), found, Option.map_some, hobj]
    | value keyword found =>
      refine .value keyword ?_
      rw [hget _ (hschema _ keyword), hvalue _ keyword, found]
      rfl
    | @item _ xs _ _ keyword found item =>
      have harr := (convertValue_eq_arr keyword).2 ⟨xs, rfl, rfl⟩
      refine .item keyword ?_ (by rw [List.getElem?_map, item]; rfl)
      rw [hget _ (hlist _ keyword), found, Option.map_some, harr]

theorem convert_eq_obj {ns : Members} (h : convert v = .obj ns) :
    ∃ ms, v = .obj ms ∧ ns = finish ms (convertKeywords ms) := by
  cases v with
  | obj ms => exact ⟨ms, rfl, (Json.obj.inj h).symm⟩
  | _ => cases h

/-- The conversion comes to the same places before and after. -/
theorem visits_convert_iff (hv : v.HasDistinctNames) :
    Visits (convert v) path y ↔ ∃ x, Visits v path x ∧ y = convert x := by
  constructor
  · intro h
    generalize hu : convert v = u at h
    induction h generalizing v with
    | here => exact ⟨v, .here v, hu.symm⟩
    | inside step _ ih =>
      obtain ⟨ms, rfl, rfl⟩ := convert_eq_obj hu
      obtain ⟨x, hx, rfl⟩ := (within_convert_iff hv.nodup).1 step
      obtain ⟨y, hy, rfl⟩ := ih (hv.holds hx.holds) rfl
      exact ⟨y, .inside hx hy, rfl⟩
  · rintro ⟨x, h, rfl⟩
    induction h with
    | here => exact .here _
    | inside step _ ih =>
      rw [convert]
      exact .inside ((within_convert_iff hv.nodup).2 ⟨_, step, rfl⟩) (ih (hv.holds step.holds))

end MessageContract.OpenApi
