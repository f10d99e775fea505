import MessageContract.Proofs.Schema.Visits

/-!
# The normal form of the conversion

Where no bound is a boolean, a converted schema holds no annotation and no flag in any place the
conversion visits (`OpenApi.IsNormal`). On schemas of that form the conversion does nothing but move
members (`OpenApi.reorders_convert`), so it is done after one time (`OpenApi.convert_normalizes`).
-/

namespace MessageContract

/-! ## Order of members -/

/-- The same values, with the members of objects in any order at every depth. -/
inductive Json.Reorders : Json → Json → Prop
  | leaf {v : Json} (bare : v.children = []) : Reorders v v
  | arr {xs ys : List Json} (length : xs.length = ys.length)
      (items : ∀ (i : Nat) (x y : Json), xs[i]? = some x → ys[i]? = some y → Json.Reorders x y) :
      Reorders (.arr xs) (.arr ys)
  | obj {ms ns : Members} (names : (ms.map (·.1)).Perm (ns.map (·.1)))
      (members : ∀ k x y, Members.get? ms k = some x → Members.get? ns k = some y →
        Json.Reorders x y) : Reorders (.obj ms) (.obj ns)

theorem Json.Reorders.refl (v : Json) : Reorders v v := by
  induction v using Json.children_induction with
  | _ v ih =>
    cases v with
    | arr xs =>
      refine .arr rfl fun i x y hx hy => ?_
      obtain rfl := Option.some.inj (hx.symm.trans hy)
      exact ih x (List.mem_of_getElem? hx)
    | obj ms =>
      refine .obj (List.Perm.refl _) fun k x y hx hy => ?_
      obtain rfl := Option.some.inj (hx.symm.trans hy)
      exact ih x (List.mem_map.2 ⟨_, Members.mem_of_get? hx, rfl⟩)
    | _ => exact .leaf rfl

namespace OpenApi

variable {bound exclusive k : String} {ms source out : Members} {v : Json}

/-- No annotation and no flag of a bound, wherever the conversion goes. -/
def IsNormal (v : Json) : Prop :=
  ∀ path ms, Visits v path (.obj ms) →
    (∀ k ∈ annotations, Members.get? ms k = none) ∧
      ∀ k ∈ ["exclusiveMinimum", "exclusiveMaximum"], ∀ b, Members.get? ms k ≠ some (.bool b)

/-- No bound is a boolean, wherever the conversion goes. -/
def HasBounds (v : Json) : Prop :=
  ∀ path ms, Visits v path (.obj ms) →
    ∀ k ∈ ["minimum", "maximum"], ∀ b, Members.get? ms k ≠ some (.bool b)

/-! ## The form of what comes out -/

/-- A flag is replaced by its bound, which is no flag. -/
theorem setStrictBound_ne_bool (hbound : ∀ b, Members.get? out bound ≠ some (.bool b))
    (hnone : Members.get? out exclusive = none) (b : Bool) :
    Members.get? (setStrictBound bound exclusive source out) exclusive ≠ some (.bool b) := by
  unfold setStrictBound
  split
  · split
    · next limit hlimit =>
      rw [Members.get?_insert_self, ← hlimit]
      exact hbound b
    · simp [hnone]
  · simp [hnone]
  · simp [hnone]
  · next limit htrue hfalse hlimit =>
    rw [Members.get?_insert_self, Ne, Option.some.injEq]
    rintro rfl
    cases b
    · exact hfalse rfl
    · exact htrue rfl

theorem convert_ne_flag (hms : (ms.map (·.1)).Nodup)
    (hbounds : ∀ k ∈ ["minimum", "maximum"], ∀ b, Members.get? ms k ≠ some (.bool b))
    (hk : k ∈ ["exclusiveMinimum", "exclusiveMaximum"]) (b : Bool) :
    Members.get? (finish ms (convertKeywords ms)) k ≠ some (.bool b) := by
  have hout := nodup_convertKeywords hms
  have hkeeps : ∀ bound ∈ ["minimum", "maximum"], ∀ b,
      Members.get? (convertKeywords ms) bound ≠ some (.bool b) := by
    intro bound hbound
    rw [get?_convertKeywords_bound hbound]
    exact hbounds bound hbound
  have hrest : ∀ k, k ≠ "minimum" → k ≠ "exclusiveMinimum" →
      Members.get? (setStrictBound "minimum" "exclusiveMinimum" ms (convertKeywords ms)) k =
        Members.get? (convertKeywords ms) k := fun _ => get?_setStrictBound_ne hout
  rw [get?_finish_of_ne (by revert k; decide) (by revert k; decide), bounded]
  rcases List.mem_pair.1 hk with rfl | rfl
  · rw [get?_setStrictBound_ne (nodup_setStrictBound hout) (by decide) (by decide)]
    exact setStrictBound_ne_bool (hkeeps _ (by decide))
      (get?_convertKeywords_flag (by decide) ms) b
  · refine setStrictBound_ne_bool (fun b => ?_) ?_ b
    · rw [hrest _ (by decide) (by decide)]
      exact hkeeps _ (by decide) b
    · rw [hrest _ (by decide) (by decide)]
      exact get?_convertKeywords_flag (by decide) ms

/-- A converted schema is of the normal form. -/
theorem isNormal_convert (hv : v.HasDistinctNames) (hbounds : HasBounds v) :
    IsNormal (convert v) := by
  intro path ns hns
  obtain ⟨x, hx, heq⟩ := (visits_convert_iff hv).1 hns
  obtain ⟨ms, rfl, rfl⟩ := convert_eq_obj heq.symm
  have hms : (ms.map (·.1)).Nodup := (hv.holds hx.holds).nodup
  refine ⟨fun k hk => ?_, fun k hk => convert_ne_flag hms (hbounds path ms hx) hk⟩
  rw [get?_finish_ne (nodup_convertKeywords hms) (by revert k; decide), get?_convertKeywords,
    if_pos (by revert k; decide)]

/-! ## Schemas of the normal form -/

/-- A limit that is no flag is put where it was taken from. -/
theorem get?_setStrictBound (hflag : ∀ b, Members.get? source exclusive ≠ some (.bool b))
    (k : String) : Members.get? (setStrictBound bound exclusive source out) k =
      if k = exclusive then (Members.get? source exclusive).or (Members.get? out exclusive)
      else Members.get? out k := by
  unfold setStrictBound
  split
  · next h => exact absurd h (hflag true)
  · next h => exact absurd h (hflag false)
  · next hnone =>
    split
    · next hk => rw [hk, hnone, Option.none_or]
    · rfl
  · next limit _ _ hlimit =>
    split
    · next hk => rw [hk, Members.get?_insert_self, hlimit, Option.some_or]
    · next hk => exact Members.get?_insert_ne _ hk _

/-- In an object of the normal form no keyword comes or goes. -/
theorem get?_convert_of_normal (hannotations : ∀ k ∈ annotations, Members.get? ms k = none)
    (hflags : ∀ k ∈ ["exclusiveMinimum", "exclusiveMaximum"], ∀ b,
      Members.get? ms k ≠ some (.bool b)) (k : String) :
    Members.get? (finish ms (convertKeywords ms)) k = (Members.get? ms k).map (convertValue k) := by
  have hnullable : isNullable ms = false := by
    rw [isNullable, hannotations _ (by decide)]
  have hmin := @get?_setStrictBound "minimum" "exclusiveMinimum" ms (convertKeywords ms)
    (hflags _ (by decide))
  have hmax := @get?_setStrictBound "maximum" "exclusiveMaximum" ms
    (setStrictBound "minimum" "exclusiveMinimum" ms (convertKeywords ms)) (hflags _ (by decide))
  rw [hmin, if_neg (by decide), get?_convertKeywords_flag (by decide), Option.or_none] at hmax
  rw [finish_eq, hnullable, if_neg Bool.false_ne_true, bounded, hmax]
  by_cases hk : k = "exclusiveMaximum"
  · rw [if_pos hk, hk, map_convertValue_bound (by decide)]
  rw [if_neg hk, hmin, get?_convertKeywords_flag (by decide), Option.or_none]
  by_cases hk' : k = "exclusiveMinimum"
  · rw [if_pos hk', hk', map_convertValue_bound (by decide)]
  rw [if_neg hk', get?_convertKeywords]
  split
  · next hdropped =>
    have hannotation : k ∈ annotations := by
      simpa [isDropped, hk, hk'] using hdropped
    rw [hannotations k hannotation]
    rfl
  · rfl

/-- What holds of a schema if it holds of the schemas in it. -/
theorem Within.induction {P : Json → Prop}
    (step : ∀ v, (∀ ms path x, v = .obj ms → Within ms path x → P x) → P v) (v : Json) : P v := by
  suffices h : P v ∧ ∀ w ∈ v.children, P w from h.1
  induction v using Json.children_induction with
  | _ v ih =>
    refine ⟨step v ?_, fun w hw => (ih w hw).1⟩
    rintro ms path x rfl hx
    obtain ⟨w, hw, rfl | hxw⟩ := hx.mem_children
    · exact (ih x hw).1
    · exact (ih w hw).2 x hxw

/-- The value of a keyword, where converting the schemas in it moves members only. -/
theorem reorders_convertValue {y : Json} (hy : Members.get? ms k = some y)
    (h : ∀ path x, Within ms path x → Json.Reorders (convert x) x) :
    Json.Reorders (convertValue k y) y := by
  cases y with
  | obj ps =>
    rw [convertValue]
    split
    · next hk =>
      have hkeyword : k ∈ mapKeywords := List.contains_iff_mem.1 hk
      have hnames : (convertEach ps).map (·.1) = ps.map (·.1) := by
        rw [convertEach_eq, List.map_map]
        rfl
      refine .obj (hnames ▸ List.Perm.refl _) fun name x w hx hw => ?_
      rw [get?_convertEach, hw] at hx
      obtain rfl := Option.some.inj hx
      exact h _ w (.entry hkeyword hy hw)
    · split
      · next hk => exact h _ _ (.value (List.contains_iff_mem.1 hk) hy)
      · exact .refl _
  | arr ws =>
    rw [convertValue]
    split
    · next hk =>
      have hkeyword : k ∈ listKeywords := List.contains_iff_mem.1 hk
      rw [convertAll_eq]
      refine .arr (List.length_map _) fun i x w hx hw => ?_
      rw [List.getElem?_map, hw] at hx
      obtain rfl := Option.some.inj hx
      exact h _ w (.item hkeyword hy hw)
    · exact .refl _
  | _ => exact .refl _

theorem IsNormal.within {path : List String} {x : Json} (h : IsNormal (.obj ms))
    (hx : Within ms path x) : IsNormal x :=
  fun path' ns hns => h (path ++ path') ns (.inside hx hns)

/-- On a schema of the normal form the conversion moves members only. -/
theorem reorders_convert (hv : ∀ path ms, Visits v path (.obj ms) → (ms.map (·.1)).Nodup)
    (hnormal : IsNormal v) : Json.Reorders (convert v) v := by
  induction v using Within.induction with
  | step v ih =>
    cases v with
    | obj ms =>
      have hms := hv [] ms (.here _)
      have hinside : ∀ path x, Within ms path x → Json.Reorders (convert x) x := by
        intro path x hx
        exact ih ms path x rfl hx (fun path' ns hns => hv _ ns (.inside hx hns))
          (hnormal.within hx)
      have hget := get?_convert_of_normal (hnormal [] ms (.here _)).1 (hnormal [] ms (.here _)).2
      have hnames : ((finish ms (convertKeywords ms)).map (·.1)).Perm (ms.map (·.1)) := by
        rw [List.perm_ext_iff_of_nodup (nodup_convert hms) hms]
        intro k
        rw [← not_iff_not, ← Members.get?_eq_none_iff, ← Members.get?_eq_none_iff, hget,
          Option.map_eq_none_iff]
      refine .obj hnames fun k x y hx hy => ?_
      rw [hget, hy] at hx
      obtain rfl := Option.some.inj hx
      exact reorders_convertValue hy hinside
    | _ => exact .refl _

/-! ## The result -/

/-- The conversion takes a schema into the normal form, moves nothing but members when it is made
again, and moves nothing but members in a schema that is of the normal form already. -/
theorem convert_normalizes (hv : v.HasDistinctNames) (hbounds : HasBounds v) :
    IsNormal (convert v) ∧ Json.Reorders (convert (convert v)) (convert v) ∧
      (IsNormal v → Json.Reorders (convert v) v) := by
  have hnormal := isNormal_convert hv hbounds
  refine ⟨hnormal, reorders_convert (fun path ns hns => ?_) hnormal, reorders_convert ?_⟩
  · obtain ⟨x, hx, heq⟩ := (visits_convert_iff hv).1 hns
    obtain ⟨ms, rfl, rfl⟩ := convert_eq_obj heq.symm
    exact nodup_convert (hv.holds hx.holds).nodup
  · exact fun path ms hms => (hv.holds hms.holds).nodup

/-- It can be seen from the parts of a value that no bound is a boolean. -/
theorem hasBounds_of_parts (h : (v.parts.all fun w => w.asMembers?.all fun ms =>
    ["minimum", "maximum"].all fun k => !(Members.get? ms k).any Json.isBool) = true) :
    HasBounds v := by
  intro path ms hms k hk b hb
  have hall := List.all_eq_true.1 h _ hms.holds.mem_parts
  have hbool := List.all_eq_true.1 hall k hk
  rw [hb] at hbool
  cases hbool

/-- The numbers of a list are above nought. -/
theorem convert_normalizes_items :
    let v : Json := .obj [("type", .str "array"), ("nullable", .bool true),
      ("items", .obj [("minimum", .num (.int 0)), ("exclusiveMinimum", .bool true)])]
    convert v = .obj [("type", .arr [.str "array", .str "null"]),
      ("items", .obj [("exclusiveMinimum", .num (.int 0))])] ∧
    IsNormal (convert v) ∧ Json.Reorders (convert (convert v)) (convert v) :=
  have h := convert_normalizes (Json.hasDistinctNames_of_parts (by decide))
    (hasBounds_of_parts (by decide))
  ⟨by rfl, h.1, h.2.1⟩

end OpenApi
end MessageContract
