import MessageContract.Proofs.Schema.Verdict

/-!
# Schema objects whose schemas are replaced

When the schemas under keywords are replaced (`Draft7.Replaces`), the rules of a schema object are the
same rules about the schemas that take the place of the old ones (`Draft7.rules_replaced`). A function
that goes through lists and maps of schemas replaces the schemas in them (`Draft7.Maps.replaces`).
-/

namespace MessageContract.Draft7

/-- The schemas in a list; what is no list has none. -/
def schemaList (keyword : Option Json) : Option (List Json) :=
  match keyword with
  | some (.arr schemas) => some schemas
  | _ => none

/-- Keywords with one schema. -/
def singleKeywords : List String :=
  ["additionalItems", "additionalProperties", "contains", "propertyNames", "not", "if", "then",
    "else"]

/-- Keywords with a list of schemas. -/
def listKeywords : List String := ["allOf", "anyOf", "oneOf"]

/-- Keywords with schemas by name. -/
def mapKeywords : List String := ["properties", "patternProperties", "dependencies"]

/-- The schemas under keywords are replaced by those that a function gives. -/
structure Replaces (g : Json → Json) (ks ls : Keywords) : Prop where
  single : ∀ k ∈ singleKeywords, ls k = (ks k).map g
  tuple : ∀ xs, ks "items" = some (.arr xs) → ls "items" = some (.arr (xs.map g))
  items : (∀ xs, ks "items" ≠ some (.arr xs)) →
    ls "items" = (ks "items").map g ∧ ∀ xs, ls "items" ≠ some (.arr xs)
  lists : ∀ k ∈ listKeywords, schemaList (ls k) = (schemaList (ks k)).map (List.map g)
  maps : ∀ k ∈ mapKeywords, schemasOf (ls k) = (schemasOf (ks k)).map fun m => (m.1, g m.2)
  dependencies : ∀ d ∈ schemasOf (ks "dependencies"),
    dependency (g d.2) = Sum.map id g (dependency d.2)

variable {g : Json → Json} {ks ls : Keywords}

/-! ## Rules -/

theorem itemRules_replaced (h : Replaces g ks ls) :
    itemRules ls = (itemRules ks).map (·.map g) := by
  have hrest := h.single "additionalItems" (by decide)
  by_cases htuple : ∃ xs, ks "items" = some (.arr xs)
  · obtain ⟨xs, hxs⟩ := htuple
    rw [itemRules, itemRules, h.tuple xs hxs, hxs, hrest]
    cases ks "additionalItems" <;> simp [Rule.map]
  · obtain ⟨hitems, hne⟩ := h.items fun xs hxs => htuple ⟨xs, hxs⟩
    have hsingle : ∀ ks : Keywords, (∀ xs, ks "items" ≠ some (.arr xs)) →
        itemRules ks = ((ks "items").map (.items 0)).toList := by
      intro ks hks
      rw [itemRules]
      split
      · next xs hxs => exact absurd hxs (hks xs)
      · next x _ hx => rw [hx]; rfl
      · next hx => rw [hx]; rfl
    rw [hsingle ls hne, hsingle ks fun xs hxs => htuple ⟨xs, hxs⟩, hitems]
    cases ks "items" <;> simp [Rule.map]

theorem memberRules_replaced (h : Replaces g ks ls) :
    memberRules ls = (memberRules ks).map (·.map g) := by
  rw [memberRules, memberRules, h.maps "properties" (by decide),
    h.maps "patternProperties" (by decide), h.single "additionalProperties" (by decide)]
  cases ks "additionalProperties" <;> simp [Rule.map, Function.comp_def]

theorem listRule_eq (ks : Keywords) (k : String) (rule : List Json → Rule Json) :
    listRule ks k rule = ((schemaList (ks k)).map rule).toList := by
  rw [listRule]
  cases hx : ks k with
  | none => rfl
  | some x => cases x <;> rfl

theorem listRule_replaced (h : Replaces g ks ls) {k : String} (hk : k ∈ listKeywords)
    {rule : List Json → Rule Json} (hrule : ∀ ss, (rule ss).map g = rule (ss.map g)) :
    listRule ls k rule = (listRule ks k rule).map (·.map g) := by
  rw [listRule_eq, listRule_eq, h.lists k hk]
  cases schemaList (ks k) <;> simp [hrule]

theorem dependencyRule_replaced (h : Replaces g ks ls) :
    (schemasOf (ls "dependencies")).map (fun d => (d.1, dependency d.2)) =
      (schemasOf (ks "dependencies")).map fun d => (d.1, Sum.map id g (dependency d.2)) := by
  rw [h.maps "dependencies" (by decide), List.map_map]
  exact List.map_congr_left fun d hd => congrArg (Prod.mk d.1) (h.dependencies d hd)

/-- The rules are about the schemas that were put in the place of others. -/
theorem rules_replaced (h : Replaces g ks ls) : rules ls = (rules ks).map (·.map g) := by
  have hoption : ∀ k ∈ singleKeywords, ∀ rule : Json → Rule Json,
      (∀ x, (rule x).map g = rule (g x)) →
      ((ls k).map rule).toList = (((ks k).map rule).toList).map (·.map g) := by
    intro k hk rule hrule
    rw [h.single k hk]
    cases ks k <;> simp [hrule]
  have hcondition : ((ls "if").map fun c => Rule.conditional c (ls "then") (ls "else")).toList =
      (((ks "if").map fun c => Rule.conditional c (ks "then") (ks "else")).toList).map
        (·.map g) := by
    rw [h.single "if" (by decide), h.single "then" (by decide), h.single "else" (by decide)]
    cases ks "if" <;> simp [Rule.map]
  rw [rules, rules, itemRules_replaced h, memberRules_replaced h, dependencyRule_replaced h,
    hoption "contains" (by decide) .contains (fun _ => rfl),
    hoption "propertyNames" (by decide) .propertyNames (fun _ => rfl),
    hoption "not" (by decide) .not (fun _ => rfl), hcondition,
    listRule_replaced h (k := "allOf") (by decide) (fun _ => rfl),
    listRule_replaced h (k := "anyOf") (by decide) (fun _ => rfl),
    listRule_replaced h (k := "oneOf") (by decide) (fun _ => rfl)]
  simp [Rule.map]

/-! ## Functions that go through lists and maps -/

/-- A list stays a list, item by item, and nothing becomes a list. -/
structure KeepsItems (g : Json → Json) (x : Json) : Prop where
  items : ∀ xs, x = .arr xs → g x = .arr (xs.map g)
  others : (∀ xs, x ≠ .arr xs) → ∀ xs, g x ≠ .arr xs

/-- An object stays an object, member by member, and nothing becomes an object. -/
structure KeepsMembers (g : Json → Json) (x : Json) : Prop where
  members : ∀ ms, x = .obj ms → g x = .obj (ms.map fun m => (m.1, g m.2))
  others : (∀ ms, x ≠ .obj ms) → ∀ ms, g x ≠ .obj ms

/-- The values of all keywords with schemas go through a function. -/
structure Maps (g : Json → Json) (ks ls : Keywords) : Prop where
  keywords : ∀ k ∈ "items" :: (singleKeywords ++ listKeywords ++ mapKeywords), ls k = (ks k).map g
  lists : ∀ k ∈ "items" :: listKeywords, ∀ x, ks k = some x → KeepsItems g x
  maps : ∀ k ∈ mapKeywords, ∀ x, ks k = some x → KeepsMembers g x
  dependencies : ∀ ds, ks "dependencies" = some (.obj ds) → ∀ d ∈ ds,
    (∀ xs, d.2 = .arr xs → g d.2 = d.2) ∧ ((∀ xs, d.2 ≠ .arr xs) → ∀ xs, g d.2 ≠ .arr xs)

theorem schemaList_eq_none {x : Option Json} (h : ∀ xs, x ≠ some (.arr xs)) :
    schemaList x = none := by
  cases x with
  | none => rfl
  | some y =>
    cases y with
    | arr xs => exact absurd rfl (h xs)
    | _ => rfl

theorem schemaList_map {x : Option Json} (h : ∀ y, x = some y → KeepsItems g y) :
    schemaList (x.map g) = (schemaList x).map (List.map g) := by
  cases x with
  | none => rfl
  | some y =>
    have hkeeps := h y rfl
    cases y with
    | arr xs =>
      rw [Option.map_some, hkeeps.items xs rfl]
      rfl
    | _ => exact schemaList_eq_none fun xs hxs => hkeeps.others (by simp) xs (Option.some.inj hxs)

theorem schemasOf_map {x : Option Json} (h : ∀ y, x = some y → KeepsMembers g y) :
    schemasOf (x.map g) = (schemasOf x).map fun m => (m.1, g m.2) := by
  cases x with
  | none => rfl
  | some y =>
    have hkeeps := h y rfl
    rw [Option.map_some, schemasOf, schemasOf, Option.map_some, Option.map_some, Option.getD_some,
      Option.getD_some]
    cases y with
    | obj ms => rw [hkeeps.members ms rfl]; rfl
    | _ =>
      have hne := hkeeps.others (by simp)
      unfold membersOf
      split
      · next ms heq => exact absurd heq (hne ms)
      · rfl

theorem mem_schemasOf {k : String} {m : String × Json} (h : m ∈ schemasOf (ks k)) :
    ∃ ms, ks k = some (.obj ms) ∧ m ∈ ms := by
  cases hx : ks k with
  | none => rw [hx] at h; cases h
  | some x =>
    rw [hx] at h
    cases x with
    | obj ms => exact ⟨ms, rfl, h⟩
    | _ => cases h

theorem Maps.replaces (h : Maps g ks ls) : Replaces g ks ls where
  single := fun k hk => h.keywords k (by simp [hk])
  tuple := by
    intro xs hxs
    rw [h.keywords "items" List.mem_cons_self, hxs, Option.map_some,
      (h.lists "items" List.mem_cons_self _ hxs).items xs rfl]
  items := by
    intro hne
    have hitems := h.keywords "items" List.mem_cons_self
    refine ⟨hitems, fun xs hxs => ?_⟩
    rw [hitems] at hxs
    obtain ⟨x, hx, hgx⟩ := Option.map_eq_some_iff.1 hxs
    exact (h.lists "items" List.mem_cons_self x hx).others
      (fun ys hys => hne ys (hys ▸ hx)) xs hgx
  lists := by
    intro k hk
    rw [h.keywords k (by simp [hk])]
    exact schemaList_map (h.lists k (List.mem_cons_of_mem _ hk))
  maps := by
    intro k hk
    rw [h.keywords k (by simp [hk])]
    exact schemasOf_map (h.maps k hk)
  dependencies := by
    intro d hd
    obtain ⟨ds, hds, hmem⟩ := mem_schemasOf hd
    obtain ⟨hnames, hschema⟩ := h.dependencies ds hds d hmem
    obtain ⟨name, y⟩ := d
    cases y with
    | arr xs =>
      rw [show g (.arr xs) = .arr xs from hnames xs rfl]
      rfl
    | _ =>
      have hne := hschema (by simp)
      show dependency (g _) = .inr (g _)
      unfold dependency
      split
      · next heq => exact absurd heq (hne _)
      · rfl

end MessageContract.Draft7
