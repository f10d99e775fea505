import MessageContract.Proofs.Schema.Replacement

/-!
# Where schemas stand in schema objects

The schemas in the rules of a schema object are values of keywords, items of lists and entries of
maps (`Draft7.Part`), and those that are applied to the value itself stand under keywords that do not
descend into it.
-/

namespace MessageContract.Draft7

/-- Keywords that apply schemas to parts or names of a value. -/
def descending : List String :=
  ["properties", "patternProperties", "additionalProperties", "items", "additionalItems",
    "contains", "propertyNames"]

/-- A schema in a schema object: the value of a keyword, or a value in that. -/
inductive Part (ks : Keywords) : String → Json → Prop
  | value {k : String} {x : Json} (found : ks k = some x) : Part ks k x
  | item {k : String} {xs : List Json} {x : Json} (found : ks k = some (.arr xs)) (mem : x ∈ xs) :
    Part ks k x
  | entry {k : String} {ms : Members} {name : String} {x : Json} (map : k ∈ mapKeywords)
      (found : ks k = some (.obj ms)) (mem : (name, x) ∈ ms) : Part ks k x

variable {ks : Keywords}

theorem mem_option {α β : Type} {o : Option α} {f : α → β} {y : β} :
    y ∈ (o.map f).toList ↔ ∃ x, o = some x ∧ y = f x := by
  cases o with
  | none => simp
  | some x => simp

theorem mem_listRule {k : String} {rule : List Json → Rule Json} {r : Rule Json}
    (h : r ∈ listRule ks k rule) : ∃ xs, ks k = some (.arr xs) ∧ r = rule xs := by
  rw [listRule] at h
  split at h
  · next xs hxs => exact ⟨xs, hxs, List.mem_singleton.1 h⟩
  · cases h

/-- What the rules of a schema object are. -/
theorem rules_cases {P : Rule Json → Prop}
    (tuple : ∀ xs, ks "items" = some (.arr xs) → P (.tuple xs))
    (rest : ∀ xs x, ks "items" = some (.arr xs) → ks "additionalItems" = some x →
      P (.items xs.length x))
    (items : ∀ x, ks "items" = some x → P (.items 0 x))
    (properties : P (.properties (schemasOf (ks "properties"))))
    (patternProperties : P (.patternProperties (schemasOf (ks "patternProperties"))))
    (additionalProperties : ∀ names patterns x, ks "additionalProperties" = some x →
      P (.additionalProperties names patterns x))
    (contains : ∀ x, ks "contains" = some x → P (.contains x))
    (propertyNames : ∀ x, ks "propertyNames" = some x → P (.propertyNames x))
    (dependencies : P (.dependencies
      ((schemasOf (ks "dependencies")).map fun d => (d.1, dependency d.2))))
    (allOf : ∀ xs, ks "allOf" = some (.arr xs) → P (.allOf xs))
    (anyOf : ∀ xs, ks "anyOf" = some (.arr xs) → P (.anyOf xs))
    (oneOf : ∀ xs, ks "oneOf" = some (.arr xs) → P (.oneOf xs))
    (not : ∀ x, ks "not" = some x → P (.not x))
    (conditional : ∀ c, ks "if" = some c → P (.conditional c (ks "then") (ks "else"))) :
    ∀ rule ∈ rules ks, P rule := by
  have hitems : ∀ rule ∈ itemRules ks, P rule := by
    intro rule h
    rw [itemRules] at h
    split at h
    · next xs hxs =>
      rcases List.mem_cons.1 h with rfl | h
      · exact tuple xs hxs
      · obtain ⟨x, hx, rfl⟩ := mem_option.1 h
        exact rest xs x hxs hx
    · next x _ hx =>
      obtain rfl := List.mem_singleton.1 h
      exact items x hx
    · cases h
  have hmembers : ∀ rule ∈ memberRules ks, P rule := by
    intro rule h
    rcases List.mem_cons.1 h with rfl | h
    · exact properties
    rcases List.mem_cons.1 h with rfl | h
    · exact patternProperties
    · obtain ⟨x, hx, rfl⟩ := mem_option.1 h
      exact additionalProperties _ _ x hx
  intro rule h
  rw [rules] at h
  simp only [List.mem_append, or_assoc] at h
  rcases h with h | h | h | h | h | h | h | h | h | h
  · exact hitems rule h
  · exact hmembers rule h
  · obtain ⟨x, hx, rfl⟩ := mem_option.1 h
    exact contains x hx
  · obtain ⟨x, hx, rfl⟩ := mem_option.1 h
    exact propertyNames x hx
  · obtain rfl := List.mem_singleton.1 h
    exact dependencies
  · obtain ⟨xs, hxs, rfl⟩ := mem_listRule h
    exact allOf xs hxs
  · obtain ⟨xs, hxs, rfl⟩ := mem_listRule h
    exact anyOf xs hxs
  · obtain ⟨xs, hxs, rfl⟩ := mem_listRule h
    exact oneOf xs hxs
  · obtain ⟨x, hx, rfl⟩ := mem_option.1 h
    exact not x hx
  · obtain ⟨c, hc, rfl⟩ := mem_option.1 h
    exact conditional c hc

theorem items_mem_rules {x : Json} (hx : ks "items" = some x) (hne : ∀ xs, x ≠ .arr xs) :
    .items 0 x ∈ rules ks := by
  have hitems : itemRules ks = [.items 0 x] := by
    rw [itemRules, hx]
    cases x with
    | arr xs => exact absurd rfl (hne xs)
    | _ => rfl
  simp [rules, hitems]

theorem properties_mem_rules : .properties (schemasOf (ks "properties")) ∈ rules ks := by
  simp [rules, memberRules]

theorem patternProperties_mem_rules :
    .patternProperties (schemasOf (ks "patternProperties")) ∈ rules ks := by
  simp [rules, memberRules]

theorem dependencies_mem_rules :
    .dependencies ((schemasOf (ks "dependencies")).map fun d => (d.1, dependency d.2)) ∈
      rules ks := by
  simp [rules]

/-- The schemas in a map are schemas in a rule, but for lists of names. -/
theorem exists_rule_of_entry {k : String} (hk : k ∈ mapKeywords) {ms : Members}
    (hms : ks k = some (.obj ms)) {name : String} {x : Json} (hx : (name, x) ∈ ms)
    (hne : ∀ xs, x ≠ .arr xs) : ∃ rule ∈ rules ks, x ∈ rule.inPlace ∨ x ∈ rule.below := by
  have hschemas : (name, x) ∈ schemasOf (ks k) := by
    rw [hms]
    exact hx
  simp only [mapKeywords, List.mem_cons, List.not_mem_nil, or_false] at hk
  rcases hk with rfl | rfl | rfl
  · exact ⟨_, properties_mem_rules, Or.inr (List.mem_map.2 ⟨_, hschemas, rfl⟩)⟩
  · exact ⟨_, patternProperties_mem_rules, Or.inr (List.mem_map.2 ⟨_, hschemas, rfl⟩)⟩
  · refine ⟨_, dependencies_mem_rules, Or.inl (List.mem_filterMap.2 ⟨(name, dependency x),
      List.mem_map.2 ⟨_, hschemas, rfl⟩, ?_⟩)⟩
    cases x with
    | arr xs => exact absurd rfl (hne xs)
    | _ => rfl

theorem mem_dependency {v x : Json} (h : (dependency v).getRight? = some x) :
    x = v ∧ ∀ xs, v ≠ .arr xs := by
  cases v with
  | arr xs => cases h
  | _ => exact ⟨(Option.some.inj h).symm, by simp⟩

theorem mem_dependencies {x : Json}
    (h : x ∈ Rule.inPlace (.dependencies
      ((schemasOf (ks "dependencies")).map fun d => (d.1, dependency d.2)))) :
    ∃ ds name, ks "dependencies" = some (.obj ds) ∧ (name, x) ∈ ds := by
  obtain ⟨d, hd, hx⟩ := List.mem_filterMap.1 h
  obtain ⟨m, hm, rfl⟩ := List.mem_map.1 hd
  obtain ⟨rfl, _⟩ := mem_dependency hx
  obtain ⟨ds, hds, hmem⟩ := mem_schemasOf hm
  exact ⟨ds, m.1, hds, hmem⟩

/-- What is applied to the value itself stands under a keyword that does not descend. -/
theorem part_of_inPlace : ∀ rule ∈ rules ks, ∀ x ∈ rule.inPlace, ∃ k ∉ descending, Part ks k x := by
  have hlist : ∀ k ∉ descending, ∀ xs, ks k = some (.arr xs) → ∀ x ∈ xs,
      ∃ k ∉ descending, Part ks k x := fun k hk xs hxs x hx => ⟨k, hk, .item hxs hx⟩
  have hvalue : ∀ k ∉ descending, ∀ x, ks k = some x → ∃ k ∉ descending, Part ks k x :=
    fun k hk x hx => ⟨k, hk, .value hx⟩
  have hnone : ∀ x ∈ ([] : List Json), ∃ k ∉ descending, Part ks k x := by simp
  refine rules_cases (fun _ _ => hnone) (fun _ _ _ _ => hnone) (fun _ _ => hnone) hnone hnone
    (fun _ _ _ _ => hnone) (fun _ _ => hnone) (fun _ _ => hnone) ?dependencies
    (hlist "allOf" (by decide)) (hlist "anyOf" (by decide)) (hlist "oneOf" (by decide)) ?not
    ?conditional
  case dependencies =>
    intro x hx
    obtain ⟨ds, name, hds, hmem⟩ := mem_dependencies hx
    exact ⟨"dependencies", by decide, .entry (by decide) hds hmem⟩
  case not =>
    intro y hy x hx
    obtain rfl := List.mem_singleton.1 hx
    exact hvalue "not" (by decide) x hy
  case conditional =>
    intro c hc x hx
    rcases List.mem_cons.1 hx with rfl | hx
    · exact hvalue "if" (by decide) x hc
    rcases List.mem_append.1 hx with hx | hx
    · exact hvalue "then" (by decide) x (Option.mem_toList.1 hx)
    · exact hvalue "else" (by decide) x (Option.mem_toList.1 hx)

theorem part_of_below : ∀ rule ∈ rules ks, ∀ x ∈ rule.below, ∃ k, Part ks k x := by
  have hnone : ∀ x ∈ ([] : List Json), ∃ k, Part ks k x := by simp
  have hvalue : ∀ k x, ks k = some x → ∀ y ∈ [x], ∃ k, Part ks k y := by
    intro k x hx y hy
    obtain rfl := List.mem_singleton.1 hy
    exact ⟨k, .value hx⟩
  have hmap : ∀ k ∈ mapKeywords, ∀ x ∈ (schemasOf (ks k)).map (·.2), ∃ k, Part ks k x := by
    intro k hk x hx
    obtain ⟨m, hm, rfl⟩ := List.mem_map.1 hx
    obtain ⟨ms, hms, hmem⟩ := mem_schemasOf hm
    exact ⟨k, .entry hk hms hmem⟩
  exact rules_cases (fun xs hxs x hx => ⟨"items", .item hxs hx⟩)
    (fun _ x _ hx => hvalue "additionalItems" x hx) (hvalue "items")
    (hmap "properties" (by decide)) (hmap "patternProperties" (by decide))
    (fun _ _ => hvalue "additionalProperties") (hvalue "contains") (hvalue "propertyNames") hnone
    (fun _ _ => hnone) (fun _ _ => hnone) (fun _ _ => hnone) (fun _ _ => hnone) (fun _ _ => hnone)

end MessageContract.Draft7
