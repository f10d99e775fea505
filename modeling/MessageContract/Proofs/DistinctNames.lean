import MessageContract.Proofs.Acceptance
import MessageContract.Proofs.Except
import MessageContract.Proofs.Reference.Stack

/-!
# Distinct names

In an object that is read, a name that comes again takes the place of the first (`Members.insert`),
so the names in every object of a decoded document are distinct (`decode_hasDistinctNames`).
Inlining keeps that: it copies objects member by member, and sets no name but `$ref`
(`Sources.Inlines.hasDistinctNames`).
-/

namespace MessageContract

namespace Json

/-- The names in every object of a value are distinct. -/
def HasDistinctNames (v : Json) : Prop :=
  ∀ ms, v.Holds (.obj ms) → (ms.map (·.1)).Nodup

namespace HasDistinctNames

theorem holds {v w : Json} (h : v.HasDistinctNames) (hw : v.Holds w) : w.HasDistinctNames :=
  fun ms hms => h ms (hw.trans hms)

theorem nodup {ms : Members} (h : (Json.obj ms).HasDistinctNames) : (ms.map (·.1)).Nodup :=
  h ms (Holds.refl _)

theorem child {v w : Json} (h : v.HasDistinctNames) (hw : w ∈ v.children) : w.HasDistinctNames :=
  h.holds ((Holds.refl w).child hw)

theorem member {ms : Members} (h : (Json.obj ms).HasDistinctNames) {m : String × Json}
    (hm : m ∈ ms) : m.2.HasDistinctNames :=
  h.child (List.mem_map.2 ⟨m, hm, rfl⟩)

theorem get? {v w : Json} (h : v.HasDistinctNames) {name : String} (hw : v.get? name = some w) :
    w.HasDistinctNames := by
  cases v with
  | obj ms => exact h.member (Members.mem_of_get? hw)
  | _ => cases hw

theorem leaf {v : Json} (hv : v.children = []) (hobj : ∀ ms, v ≠ .obj ms) :
    v.HasDistinctNames := by
  intro ms hms
  rcases holds_iff.1 hms with rfl | ⟨w, hw, _⟩
  · exact absurd rfl (hobj ms)
  · rw [hv] at hw
    cases hw

theorem obj {ms : Members} (hms : (ms.map (·.1)).Nodup)
    (h : ∀ m ∈ ms, m.2.HasDistinctNames) : (Json.obj ms).HasDistinctNames := by
  intro ns hns
  rcases holds_iff.1 hns with heq | ⟨w, hw, hwns⟩
  · rw [← Json.obj.inj heq]
    exact hms
  · obtain ⟨m, hm, rfl⟩ := List.mem_map.1 hw
    exact h m hm ns hwns

theorem arr {xs : List Json} (h : ∀ x ∈ xs, x.HasDistinctNames) :
    (Json.arr xs).HasDistinctNames := by
  intro ns hns
  rcases holds_iff.1 hns with heq | ⟨x, hx, hxns⟩
  · cases heq
  · exact h x hx ns hxns

/-- A name that is set stays one name. -/
theorem insert {ms : Members} (h : (Json.obj ms).HasDistinctNames) (name : String) {v : Json}
    (hv : v.HasDistinctNames) : (Json.obj (Members.insert ms name v)).HasDistinctNames := by
  refine .obj (Members.nodup_insert h.nodup name v) fun m hm => ?_
  rcases Members.mem_insert hm with rfl | hm
  · exact hv
  · exact h.member hm

end HasDistinctNames

/-- It can be seen from the parts of a value. -/
theorem hasDistinctNames_of_parts {v : Json}
    (h : (v.parts.all fun w => w.asMembers?.all fun ms => decide (ms.map (·.1)).Nodup) = true) :
    v.HasDistinctNames := by
  intro ms hms
  have hms := List.all_eq_true.1 h _ hms.mem_parts
  exact of_decide_eq_true hms

end Json

/-! ## Reading JSON -/

namespace Json

/-- What is read within some steps has distinct names, with the items or members before it. -/
structure ReadsDistinct (fuel : Nat) : Prop where
  value : ∀ {depth c v c'}, readValue fuel depth c = .ok (v, c') → v.HasDistinctNames
  items : ∀ {depth first acc c vs c'}, readItems fuel depth first acc c = .ok (vs, c') →
    (Json.arr acc).HasDistinctNames → (Json.arr vs).HasDistinctNames
  members : ∀ {depth first acc c ms c'}, readMembers fuel depth first acc c = .ok (ms, c') →
    (Json.obj acc).HasDistinctNames → (Json.obj ms).HasDistinctNames

namespace ReadsDistinct

variable {fuel depth : Nat} {first : Bool} {c c' : Cursor}

theorem value_succ (h : ReadsDistinct fuel) {v : Json}
    (hv : readValue (fuel + 1) depth c = .ok (v, c')) : v.HasDistinctNames := by
  have hleaf : ∀ {α : Type} (x : Except ReadError (α × Cursor)) (f : α → Json),
      (∀ a, (f a).HasDistinctNames) → x.map (fun a => (f a.1, a.2)) = .ok (v, c') →
      v.HasDistinctNames := by
    intro α x f hf heq
    obtain ⟨a, -, ha⟩ := map_eq_ok heq
    cases ha
    exact hf a.1
  have hword : ∀ (x : Except ReadError Cursor) (w : Json), w.HasDistinctNames →
      x.map (fun c => (w, c)) = .ok (v, c') → v.HasDistinctNames := by
    intro x w hw heq
    obtain ⟨_, -, ha⟩ := map_eq_ok heq
    cases ha
    exact hw
  rw [readValue.eq_def] at hv
  dsimp only at hv
  split at hv
  · cases hv
  · exact hword _ _ (.leaf rfl (by simp)) hv
  · exact hword _ _ (.leaf rfl (by simp)) hv
  · exact hword _ _ (.leaf rfl (by simp)) hv
  · exact hleaf _ Json.str (fun _ => .leaf rfl (by simp)) hv
  · exact hleaf _ Json.num (fun _ => .leaf rfl (by simp)) hv
  · split at hv
    · cases hv
    · obtain ⟨_, hvs, ha⟩ := map_eq_ok hv
      cases ha
      exact h.items hvs (.arr (by simp))
  · split at hv
    · cases hv
    · obtain ⟨_, hms, ha⟩ := map_eq_ok hv
      cases ha
      exact h.members hms (.obj (by simp) (by simp))
  · split at hv
    · exact hleaf _ Json.num (fun _ => .leaf rfl (by simp)) hv
    · cases hv

theorem items_succ (h : ReadsDistinct fuel) {acc vs : List Json}
    (hvs : readItems (fuel + 1) depth first acc c = .ok (vs, c'))
    (hacc : (Json.arr acc).HasDistinctNames) : (Json.arr vs).HasDistinctNames := by
  have hitem : ∀ c, (do
      let x ← readValue fuel depth c
      readItems fuel depth false (x.1 :: acc) x.2) = .ok (vs, c') →
      (Json.arr vs).HasDistinctNames := by
    intro c heq
    obtain ⟨x, hv, hrest⟩ := bind_eq_ok heq
    exact h.items hrest (.arr (List.forall_mem_cons.2 ⟨h.value hv, fun y hy => hacc.child hy⟩))
  rw [readItems.eq_def] at hvs
  dsimp only at hvs
  split at hvs
  · cases hvs
  · cases hvs
    exact .arr fun x hx => hacc.child (List.mem_reverse.1 hx)
  · split at hvs
    · exact hitem _ hvs
    · split at hvs
      · cases hvs
      · cases hvs
      · exact hitem _ hvs
  · split at hvs
    · exact hitem _ hvs
    · cases hvs

theorem members_succ (h : ReadsDistinct fuel) {acc ms : Members}
    (hms : readMembers (fuel + 1) depth first acc c = .ok (ms, c'))
    (hacc : (Json.obj acc).HasDistinctNames) : (Json.obj ms).HasDistinctNames := by
  have hvalue : ∀ k c, (do
      let x ← readValue fuel depth c
      readMembers fuel depth false (acc.insert k x.1) x.2) = .ok (ms, c') →
      (Json.obj ms).HasDistinctNames := by
    intro k c heq
    obtain ⟨x, hv, hrest⟩ := bind_eq_ok heq
    exact h.members hrest (hacc.insert k (h.value hv))
  rw [readMembers.eq_def] at hms
  dsimp -zeta only at hms
  extract_lets c₁ member at hms
  have hmember : ∀ c, member c = .ok (ms, c') → (Json.obj ms).HasDistinctNames := by
    intro c heq
    obtain ⟨k, -, hcolon⟩ := bind_eq_ok heq
    dsimp only at hcolon
    split at hcolon
    · cases hcolon
    · exact hvalue _ _ hcolon
    · cases hcolon
  split at hms
  · cases hms
  · cases hms
    exact hacc
  · split at hms
    · exact hmember _ hms
    · cases hms
  · split at hms
    · cases hms
    · split at hms
      · cases hms
      · exact hmember _ hms
      · cases hms
      · cases hms
  · cases hms

end ReadsDistinct

theorem readsDistinct (fuel : Nat) : ReadsDistinct fuel := by
  induction fuel with
  | zero =>
    refine ⟨fun hv => ?_, fun hvs => ?_, fun hms => ?_⟩
    · rw [readValue.eq_def] at hv
      cases hv
    · rw [readItems.eq_def] at hvs
      cases hvs
    · rw [readMembers.eq_def] at hms
      cases hms
  | succ fuel ih => exact ⟨ih.value_succ, ih.items_succ, ih.members_succ⟩

theorem read_hasDistinctNames {text : String} {v : Json} (h : read text = .ok v) :
    v.HasDistinctNames := by
  rw [read] at h
  obtain ⟨x, hv, hrest⟩ := bind_eq_ok h
  dsimp only at hrest
  split at hrest
  · cases hrest
    exact (readsDistinct _).value hv
  · cases hrest

end Json

/-! ## Converting YAML -/

namespace Yaml

mutual

theorem toJsonAt_hasDistinctNames (path : List String) : ∀ (y : Yaml) {v : Json},
    toJsonAt path y = .ok v → v.HasDistinctNames
  | .null, _, h => by
    cases h
    exact .leaf rfl (by simp)
  | .bool b, _, h => by
    cases h
    exact .leaf rfl (by simp)
  | .int n, _, h => by
    cases h
    exact .leaf rfl (by simp [Json.int])
  | .double d, _, h => by
    rw [toJsonAt] at h
    split at h
    · cases h
      exact .leaf rfl (by simp)
    · cases h
  | .str s, _, h => by
    cases h
    exact .leaf rfl (by simp)
  | .seq items, _, h => by
    rw [toJsonAt] at h
    obtain ⟨vs, hvs, rfl⟩ := map_eq_ok h
    exact .arr (toJsonItems_hasDistinctNames path 0 items hvs)
  | .map entries, _, h => by
    rw [toJsonAt] at h
    obtain ⟨ms, hms, rfl⟩ := map_eq_ok h
    exact toJsonEntries_hasDistinctNames path entries (.obj (by simp) (by simp)) hms
  | .tagged tag y, v, h => by
    rw [toJsonAt] at h
    exact toJsonAt_hasDistinctNames path y h

theorem toJsonItems_hasDistinctNames (path : List String) (index : Nat) :
    ∀ (ys : List Yaml) {vs : List Json}, toJsonItems path index ys = .ok vs →
      ∀ v ∈ vs, v.HasDistinctNames
  | [], _, h => by
    cases h
    simp
  | y :: ys, _, h => by
    rw [toJsonItems] at h
    split at h
    · cases h
    · next v hv =>
      obtain ⟨vs, hvs, rfl⟩ := map_eq_ok h
      exact List.forall_mem_cons.2 ⟨toJsonAt_hasDistinctNames _ y hv,
        toJsonItems_hasDistinctNames path (index + 1) ys hvs⟩

theorem toJsonEntries_hasDistinctNames (path : List String) :
    ∀ (entries : List (Yaml × Yaml)) {acc ms : Members}, (Json.obj acc).HasDistinctNames →
      toJsonEntries path acc entries = .ok ms → (Json.obj ms).HasDistinctNames
  | [], _, _, hacc, h => by
    cases h
    exact hacc
  | (k, y) :: entries, _, _, hacc, h => by
    rw [toJsonEntries] at h
    split at h
    · cases h
    · next name _ =>
      split at h
      · cases h
      · next v hv =>
        exact toJsonEntries_hasDistinctNames path entries
          (hacc.insert name (toJsonAt_hasDistinctNames _ y hv)) h

end

end Yaml

/-! ## Documents -/

/-- What is decoded has distinct names. -/
theorem decode_hasDistinctNames {text : String} {v : Json} (h : decode text = .ok v) :
    v.HasDistinctNames := by
  unfold decode at h
  dsimp only at h
  split at h
  · exact Json.read_hasDistinctNames (mapError_eq_ok h)
  · split at h
    · cases h
    · next y _ => exact Yaml.toJsonAt_hasDistinctNames [] y (mapError_eq_ok h)

theorem Loading.tree_hasDistinctNames {w : World} {settings : FetchSettings} {l : Location}
    {v : Json} (h : tree w settings l = .ok v) : v.HasDistinctNames := by
  unfold tree at h
  split at h
  · cases h
  · exact decode_hasDistinctNames (mapError_eq_ok h)

/-- Loaded documents have distinct names. -/
theorem World.store_hasDistinctNames {w : World} {settings : FetchSettings} {raw : Json}
    {root : Location} {d : Location × Json}
    (hd : d ∈ (w.loadReferences settings raw root).store) : d.2.HasDistinctNames := by
  obtain ⟨s, h, heq⟩ := w.exists_loadReferences_eq settings raw root
  have hstored : d ∈ s.store := by
    rw [heq] at hd
    exact hd
  rw [h.store] at hstored
  obtain ⟨visit, -, hv⟩ := List.mem_filterMap.1 hstored
  cases htree : Loading.tree w settings visit.target with
  | error e =>
    rw [htree] at hv
    cases hv
  | ok v =>
    rw [htree] at hv
    cases hv
    exact Loading.tree_hasDistinctNames htree

/-- Members that are related one by one have the same names. -/
theorem Members.names_eq {R : Json → Json → Prop} {ms ns : Members}
    (h : List.Forall₂ (fun m n => m.1 = n.1 ∧ R m.2 n.2) ms ns) :
    ns.map (·.1) = ms.map (·.1) := by
  induction h with
  | nil => rfl
  | cons hmn _ ih => rw [List.map_cons, List.map_cons, ih, hmn.1]

namespace Sources

variable {s : Sources}

/-- What comes out of documents with distinct names has distinct names. -/
theorem Inlines.hasDistinctNames (hs : ∀ d ∈ s.documents, d.2.HasDistinctNames) {fuel : Nat}
    {stack : List Target} {base : Location} {v out : Json} (h : s.Inlines fuel stack base v out)
    (hv : v.HasDistinctNames) : out.HasDistinctNames := by
  refine Inlines.induction (P := fun _ _ v out => v.HasDistinctNames → out.HasDistinctNames)
    ?leaf ?arr ?obj ?unfound ?kept ?followed h hv
  case leaf => exact fun _ _ v _ _ hv => hv
  case arr =>
    intro _ _ xs ys hall hxs
    refine .arr fun y hy => ?_
    obtain ⟨x, hx, hxy⟩ := forall₂_mem_right hall hy
    exact hxy (hxs.child hx)
  case obj =>
    intro _ _ _ ms ns _ hin hall hms
    refine .obj (Members.names_eq hin ▸ hms.nodup) fun n hn => ?_
    obtain ⟨m, hm, _, hmn⟩ := forall₂_mem_right hall hn
    exact hmn (hms.member hm)
  case unfound => exact fun _ _ holder _ _ _ hholder => hholder
  case kept =>
    intro _ _ holder r t _ hr _ _ _ hholder
    obtain ⟨ms, rfl⟩ := reference?_obj hr
    exact hholder.insert "$ref" (.leaf rfl (by simp))
  case followed =>
    intro _ _ _ _ t u out _ ht _ ih _
    obtain ⟨d, hd, _, hu⟩ := target?_mem ht
    exact ih ((hs d hd).holds (Json.holds_of_pointer hu))

end Sources

namespace Parse

/-- The root of a document has distinct names. -/
theorem root_hasDistinctNames {input : Input} (hinput : ∀ v, input = .json v → v.HasDistinctNames)
    {raw : Json} (h : root input = .ok raw) : raw.HasDistinctNames := by
  have htree : tree input = .ok raw := by
    unfold root at h
    split at h
    · cases h
    · next v hv =>
      split at h
      · rw [hv, Except.ok.inj h]
      · cases h
  cases input with
  | json v =>
    have hv := hinput v rfl
    rwa [Except.ok.inj htree] at hv
  | text t =>
    unfold tree at htree
    exact decode_hasDistinctNames (mapError_eq_ok htree)

/-- An accepted document has distinct names. -/
theorem Accepted.hasDistinctNames {w : World} {settings : FetchSettings} {options : ParseOptions}
    {location : Location} {raw : Json} {d : Document}
    (h : Accepted w settings options location raw d) (hraw : raw.HasDistinctNames) :
    d.json.HasDistinctNames := by
  rw [h.json]
  refine (Sources.inlines_root h.inlined).hasDistinctNames (fun e he => ?_) hraw
  rcases List.mem_cons.1 he with rfl | he
  · exact hraw
  · exact World.store_hasDistinctNames he

end Parse
end MessageContract
