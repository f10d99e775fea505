import MessageContract.Proofs.Reference.Nesting
import MessageContract.Proofs.Schema.Idiom

/-!
# Verdicts of schemas

A schema has a verdict on a value if everything that the value calls for can be found out: references
are followed only then, so there is none when one leads nowhere, or in circles. What is neither an
object nor a boolean asks for nothing. A verdict stays with more steps (`Reading.evaluate_mono`), so
there is one at most (`Reading.Verdict.unique`).
-/

namespace MessageContract

open Draft7 (Keywords Rule)

/-- How schemas are read that stand in places of some kind: what objects ask for by themselves, and
where references lead. -/
structure Reading (κ : Type) where
  idiom : κ → Idiom
  resolve : κ → String → Option (κ × Json)

/-- All schemas are read in one idiom. -/
def Idiom.reading {κ : Type} (t : Idiom) (resolve : κ → String → Option (κ × Json)) : Reading κ :=
  ⟨fun _ => t, resolve⟩

namespace Reading

variable {κ σ τ : Type}

/-- The schemas that rules apply to a value, with what they are applied to. -/
def demands (rules : List (Rule σ)) (v : Json) : List (σ × Json) := rules.flatMap (·.demands v)

/-- Whether all rules hold, if all schemas in them have a verdict. -/
def judge (verdict : σ → Json → Option Bool) (rules : List (Rule σ)) (v : Json) : Option Bool :=
  if (demands rules v).all fun d => (verdict d.1 d.2).isSome then
    some (rules.all (·.holds (fun s w => (verdict s w).getD false) v))
  else none

/-- The verdict of a schema on a value that is found in so many steps. A schema that names itself
has references of its own, and no verdict here. -/
def evaluate (r : Reading κ) : Nat → κ → Json → Json → Option Bool
  | 0, _, _, _ => none
  | n + 1, c, schema, v =>
    match schema.reference? with
    | some reference => (r.resolve c reference).bind fun x => evaluate r n x.1 x.2 v
    | none =>
      match schema with
      | .bool b => some b
      | .obj ms =>
        if (Members.get? ms "$id").isSome then none
        else
          (judge (evaluate r n c) (Draft7.rules (Members.get? ms)) v).map fun b =>
            (r.idiom c).admits (Members.get? ms) v && b
      | _ => some true

/-- The verdict of a schema on a value. -/
def Verdict (r : Reading κ) (c : κ) (schema v : Json) (verdict : Bool) : Prop :=
  ∃ n, r.evaluate n c schema v = some verdict

/-! ## Rules -/

theorem all_congr_mem {α : Type} {p q : α → Bool} {l : List α} (h : ∀ x ∈ l, p x = q x) :
    l.all p = l.all q := by
  rw [Bool.eq_iff_iff, List.all_eq_true, List.all_eq_true]
  exact forall₂_congr fun x hx => by rw [h x hx]

theorem any_congr_mem {α : Type} {p q : α → Bool} {l : List α} (h : ∀ x ∈ l, p x = q x) :
    l.any p = l.any q := by
  rw [Bool.eq_iff_iff, List.any_eq_true, List.any_eq_true]
  exact exists_congr fun x => and_congr_right fun hx => by rw [h x hx]

/-- A rule looks at nothing but what it demands. -/
theorem holds_congr {accepts accepts' : σ → Json → Bool} {v : Json} {rule : Rule σ}
    (h : ∀ d ∈ rule.demands v, accepts d.1 d.2 = accepts' d.1 d.2) :
    rule.holds accepts v = rule.holds accepts' v := by
  have hall : ((rule.demands v).all fun d => accepts d.1 d.2) =
      (rule.demands v).all fun d => accepts' d.1 d.2 := all_congr_mem h
  have hsame : ∀ ss : List σ, (∀ d ∈ ss.map fun s => (s, v), accepts d.1 d.2 = accepts' d.1 d.2) →
      ∀ s ∈ ss, accepts s v = accepts' s v := fun ss hss s hs =>
    hss (s, v) (List.mem_map.2 ⟨s, hs, rfl⟩)
  cases rule with
  | contains s =>
    cases v with
    | arr items => exact any_congr_mem h
    | _ => rfl
  | dependencies ds => rw [Rule.holds, Rule.holds, hall]
  | anyOf ss => exact any_congr_mem (hsame ss h)
  | oneOf ss =>
    rw [Rule.holds, Rule.holds, List.countP_congr fun s hs => by rw [hsame ss h s hs]]
  | not s => rw [Rule.holds, Rule.holds, h (s, v) List.mem_cons_self]
  | conditional c yes no =>
    have hc := hsame _ h c List.mem_cons_self
    have hyes : yes.all (accepts · v) = yes.all (accepts' · v) := by
      cases yes with
      | none => rfl
      | some s => exact hsame _ h s (by simp)
    have hno : no.all (accepts · v) = no.all (accepts' · v) := by
      cases no with
      | none => rfl
      | some s => exact hsame _ h s (by simp)
    rw [Rule.holds, Rule.holds, hc, hyes, hno]
  | _ => exact hall

theorem demands_map (f : σ → τ) (rule : Rule σ) (v : Json) :
    (rule.map f).demands v = (rule.demands v).map fun d => (f d.1, d.2) := by
  cases rule with
  | tuple ss => simp [Rule.map, Rule.demands, List.zip_map_left]
  | dependencies ds =>
    simp only [Rule.map, Rule.demands, List.filterMap_map, List.map_filterMap]
    congr 1
    funext d
    obtain ⟨name, ns | s⟩ := d <;> by_cases h : ((Draft7.membersOf v).get? name).isSome <;> simp [h]
  | conditional c yes no => cases yes <;> cases no <;> simp [Rule.map, Rule.demands]
  | _ => simp [Rule.map, Rule.demands, List.filterMap_map, List.map_filterMap, List.flatMap_map,
      List.map_flatMap, Function.comp_def]

theorem inPlace_map (f : σ → τ) (rule : Rule σ) :
    (rule.map f).inPlace = rule.inPlace.map f := by
  cases rule with
  | dependencies ds =>
    simp only [Rule.map, Rule.inPlace, List.filterMap_map, List.map_filterMap]
    congr 1
    funext d
    obtain ⟨name, ns | s⟩ := d <;> rfl
  | conditional c yes no => cases yes <;> cases no <;> rfl
  | _ => rfl

theorem below_map (f : σ → τ) (rule : Rule σ) : (rule.map f).below = rule.below.map f := by
  cases rule with
  | properties ps => simp [Rule.map, Rule.below]
  | patternProperties ps => simp [Rule.map, Rule.below]
  | _ => rfl

/-- Schemas that are replaced throughout leave a rule what it is. -/
theorem holds_map (f : σ → τ) (accepts : τ → Json → Bool) (rule : Rule σ) (v : Json) :
    (rule.map f).holds accepts v = rule.holds (fun s w => accepts (f s) w) v := by
  have hall : (((rule.map f).demands v).all fun d => accepts d.1 d.2) =
      (rule.demands v).all fun d => accepts (f d.1) d.2 := by
    rw [demands_map, List.all_map]
    rfl
  cases rule with
  | contains s =>
    cases v with
    | arr items => simp [Rule.map, Rule.holds, Rule.demands, Function.comp_def]
    | _ => rfl
  | dependencies ds =>
    rw [Rule.holds, ← hall]
    simp only [Rule.map, Rule.holds, List.all_map]
    congr 1
    refine all_congr_mem fun d _ => ?_
    obtain ⟨name, ns | s⟩ := d <;> rfl
  | anyOf ss => exact List.any_map
  | oneOf ss => rw [Rule.map, Rule.holds, Rule.holds, List.countP_map]; rfl
  | not s => rfl
  | conditional c yes no => cases yes <;> cases no <;> simp [Rule.map, Rule.holds]
  | _ => exact hall

theorem count_lt_of_mem_itemsOf {v w : Json} (h : w ∈ Draft7.itemsOf v) : w.count < v.count := by
  cases v with
  | arr items => exact Json.count_lt_of_mem_children (v := .arr items) h
  | _ => cases h

theorem count_lt_of_mem_membersOf {v : Json} {m : String × Json} (h : m ∈ Draft7.membersOf v) :
    m.2.count < v.count := by
  cases v with
  | obj ms => exact Json.count_lt_of_mem_children (v := .obj ms) (List.mem_map.2 ⟨m, h, rfl⟩)
  | _ => cases h

theorem count_name_lt_of_mem_membersOf {v : Json} {m : String × Json}
    (h : m ∈ Draft7.membersOf v) : (Json.str m.1).count < v.count := by
  have hlt := count_lt_of_mem_membersOf h
  have hpos : 1 ≤ m.2.count := by
    cases m.2 <;> simp [Json.count]
  rw [Json.count]
  · omega
  · intro items h'
    cases h'
  · intro ms h'
    cases h'

/-- What a rule demands is of the value itself, or of something smaller. -/
theorem demands_descend {rule : Rule σ} {v : Json} {d : σ × Json} (h : d ∈ rule.demands v) :
    d.2 = v ∧ d.1 ∈ rule.inPlace ∨ d.2.count < v.count ∧ d.1 ∈ rule.below := by
  have hitems : ∀ s : σ, d ∈ (Draft7.itemsOf v).map (fun w => (s, w)) →
      d.2.count < v.count ∧ d.1 ∈ [s] := by
    intro s hd
    obtain ⟨w, hw, rfl⟩ := List.mem_map.1 hd
    exact ⟨count_lt_of_mem_itemsOf hw, List.mem_singleton.2 rfl⟩
  have hsame : ∀ ss : List σ, d ∈ ss.map (fun s => (s, v)) → d.2 = v ∧ d.1 ∈ ss := by
    intro ss hd
    obtain ⟨s, hs, rfl⟩ := List.mem_map.1 hd
    exact ⟨rfl, hs⟩
  cases rule with
  | items skip s =>
    obtain ⟨w, hw, rfl⟩ := List.mem_map.1 h
    exact Or.inr ⟨count_lt_of_mem_itemsOf (List.mem_of_mem_drop hw), List.mem_singleton.2 rfl⟩
  | tuple ss =>
    obtain ⟨hs, hw⟩ := List.of_mem_zip (show (d.1, d.2) ∈ _ from h)
    exact Or.inr ⟨count_lt_of_mem_itemsOf hw, hs⟩
  | contains s => exact Or.inr (hitems s h)
  | properties ps =>
    obtain ⟨p, hp, hd⟩ := List.mem_filterMap.1 h
    obtain ⟨w, hw, rfl⟩ := Option.map_eq_some_iff.1 hd
    exact Or.inr ⟨count_lt_of_mem_membersOf (Members.mem_of_get? hw), List.mem_map.2 ⟨p, hp, rfl⟩⟩
  | patternProperties ps =>
    obtain ⟨p, hp, hd⟩ := List.mem_flatMap.1 h
    obtain ⟨m, hm, rfl⟩ := List.mem_map.1 hd
    exact Or.inr ⟨count_lt_of_mem_membersOf (List.mem_filter.1 hm).1, List.mem_map.2 ⟨p, hp, rfl⟩⟩
  | additionalProperties names patterns s =>
    obtain ⟨m, hm, rfl⟩ := List.mem_map.1 h
    exact Or.inr ⟨count_lt_of_mem_membersOf (List.mem_filter.1 hm).1, List.mem_singleton.2 rfl⟩
  | propertyNames s =>
    obtain ⟨m, hm, rfl⟩ := List.mem_map.1 h
    exact Or.inr ⟨count_name_lt_of_mem_membersOf hm, List.mem_singleton.2 rfl⟩
  | dependencies ds =>
    obtain ⟨e, he, hd⟩ := List.mem_filterMap.1 h
    split at hd
    · obtain ⟨s, hs, rfl⟩ := Option.map_eq_some_iff.1 hd
      exact Or.inl ⟨rfl, List.mem_filterMap.2 ⟨e, he, hs⟩⟩
    · cases hd
  | allOf ss => exact Or.inl (hsame ss h)
  | anyOf ss => exact Or.inl (hsame ss h)
  | oneOf ss => exact Or.inl (hsame ss h)
  | not s => exact Or.inl (hsame [s] h)
  | conditional c yes no => exact Or.inl (hsame _ h)

/-! ## Judging -/

theorem mem_demands {rules : List (Rule σ)} {v : Json} {d : σ × Json} :
    d ∈ demands rules v ↔ ∃ rule ∈ rules, d ∈ rule.demands v := List.mem_flatMap

theorem judge_eq_some {verdict : σ → Json → Option Bool} {rules : List (Rule σ)} {v : Json}
    {b : Bool} : judge verdict rules v = some b ↔
      (∀ d ∈ demands rules v, (verdict d.1 d.2).isSome = true) ∧
        rules.all (·.holds (fun s w => (verdict s w).getD false) v) = b := by
  rw [judge]
  split
  · next h => rw [Option.some.injEq, and_iff_right (List.all_eq_true.1 h)]
  · next h => exact iff_of_false (by simp) fun h' => h (List.all_eq_true.2 h'.1)

/-- A judgement stays when what it rests on stays. -/
theorem judge_mono {verdict verdict' : σ → Json → Option Bool} {rules : List (Rule σ)} {v : Json}
    {b : Bool} (h : ∀ d ∈ demands rules v, ∀ b, verdict d.1 d.2 = some b → verdict' d.1 d.2 = some b)
    (hb : judge verdict rules v = some b) : judge verdict' rules v = some b := by
  obtain ⟨hsome, hholds⟩ := judge_eq_some.1 hb
  have hsame : ∀ d ∈ demands rules v, verdict' d.1 d.2 = verdict d.1 d.2 := by
    intro d hd
    obtain ⟨x, hx⟩ := Option.isSome_iff_exists.1 (hsome d hd)
    rw [hx, h d hd x hx]
  refine judge_eq_some.2 ⟨fun d hd => hsame d hd ▸ hsome d hd, ?_⟩
  rw [← hholds]
  refine all_congr_mem fun rule hrule => holds_congr fun d hd => ?_
  rw [hsame d (mem_demands.2 ⟨rule, hrule, hd⟩)]

theorem judge_map (f : σ → τ) (verdict : τ → Json → Option Bool) (rules : List (Rule σ))
    (v : Json) :
    judge verdict (rules.map (·.map f)) v = judge (fun s w => verdict (f s) w) rules v := by
  have hdemands : demands (rules.map (·.map f)) v =
      (demands rules v).map fun d => (f d.1, d.2) := by
    simp only [demands, List.flatMap_map, List.map_flatMap, demands_map]
  have hholds : (rules.map (·.map f)).all (·.holds (fun s w => (verdict s w).getD false) v) =
      rules.all (·.holds (fun s w => (verdict (f s) w).getD false) v) := by
    rw [List.all_map]
    exact all_congr_mem fun rule _ => holds_map f (fun s w => (verdict s w).getD false) rule v
  rw [judge, judge, hdemands, hholds, List.all_map]
  rfl

/-! ## Steps -/

variable (r : Reading κ)

theorem evaluate_reference (n : Nat) (c : κ) {schema : Json} {reference : String}
    (hr : schema.reference? = some reference) (v : Json) :
    r.evaluate (n + 1) c schema v =
      (r.resolve c reference).bind fun x => r.evaluate n x.1 x.2 v := by
  rw [evaluate.eq_def]
  simp only [hr]

theorem evaluate_obj (n : Nat) (c : κ) {ms : Members} (hr : (Json.obj ms).reference? = none)
    (v : Json) :
    r.evaluate (n + 1) c (.obj ms) v =
      if (Members.get? ms "$id").isSome then none
      else (judge (r.evaluate n c) (Draft7.rules (Members.get? ms)) v).map fun b =>
        (r.idiom c).admits (Members.get? ms) v && b := by
  rw [evaluate.eq_def]
  simp only [hr]

theorem evaluate_bool (n : Nat) (c : κ) (b : Bool) (v : Json) :
    r.evaluate (n + 1) c (.bool b) v = some b := rfl

theorem evaluate_other (n : Nat) (c : κ) {schema : Json} (hbool : ∀ b, schema ≠ .bool b)
    (hobj : ∀ ms, schema ≠ .obj ms) (v : Json) : r.evaluate (n + 1) c schema v = some true := by
  cases schema with
  | bool b => exact absurd rfl (hbool b)
  | obj ms => exact absurd rfl (hobj ms)
  | _ => rfl

theorem evaluate_mono {n m : Nat} (hnm : n ≤ m) {c : κ} {schema v : Json} {b : Bool}
    (h : r.evaluate n c schema v = some b) : r.evaluate m c schema v = some b := by
  induction n generalizing m c schema v b with
  | zero => cases h
  | succ n ih =>
    obtain ⟨m, rfl⟩ := Nat.exists_eq_add_of_lt hnm
    cases hr : schema.reference? with
    | some reference =>
      rw [r.evaluate_reference _ c hr] at h ⊢
      obtain ⟨x, hx, hxb⟩ := Option.bind_eq_some_iff.1 h
      exact Option.bind_eq_some_iff.2 ⟨x, hx, ih (by omega) hxb⟩
    | none =>
      cases schema with
      | obj ms =>
        rw [r.evaluate_obj _ c hr] at h ⊢
        split at h
        · cases h
        · next hid =>
          rw [if_neg hid]
          obtain ⟨b', hb', rfl⟩ := Option.map_eq_some_iff.1 h
          exact Option.map_eq_some_iff.2
            ⟨b', judge_mono (fun d _ b hb => ih (by omega) hb) hb', rfl⟩
      | _ => exact h

variable {r}

theorem Verdict.unique {c : κ} {schema v : Json} {b b' : Bool} (h : r.Verdict c schema v b)
    (h' : r.Verdict c schema v b') : b = b' := by
  obtain ⟨n, hn⟩ := h
  obtain ⟨m, hm⟩ := h'
  have hn' := r.evaluate_mono (Nat.le_max_left n m) hn
  have hm' := r.evaluate_mono (Nat.le_max_right n m) hm
  exact Option.some.inj (hn'.symm.trans hm')

/-- Finitely many verdicts are found within the same number of steps. -/
theorem exists_steps {c : κ} {ds : List (σ × Json)} {f : σ → Json}
    (h : ∀ d ∈ ds, ∃ b, r.Verdict c (f d.1) d.2 b) :
    ∃ n, ∀ d ∈ ds, ∀ b, r.Verdict c (f d.1) d.2 b → r.evaluate n c (f d.1) d.2 = some b := by
  induction ds with
  | nil => exact ⟨0, by simp⟩
  | cons d ds ih =>
    obtain ⟨n, hn⟩ := ih fun d' hd' => h d' (List.mem_cons_of_mem _ hd')
    obtain ⟨b, m, hm⟩ := h d List.mem_cons_self
    refine ⟨max n m, fun d' hd' b' hb' => ?_⟩
    rcases List.mem_cons.1 hd' with rfl | hd'
    · rw [← Verdict.unique ⟨m, hm⟩ hb']
      exact r.evaluate_mono (Nat.le_max_right n m) hm
    · exact r.evaluate_mono (Nat.le_max_left n m) (hn d' hd' b' hb')

theorem Verdict.reference {c : κ} {schema v : Json} {reference : String} {x : κ × Json} {b : Bool}
    (hr : schema.reference? = some reference) (hx : r.resolve c reference = some x)
    (h : r.Verdict x.1 x.2 v b) : r.Verdict c schema v b := by
  obtain ⟨n, hn⟩ := h
  refine ⟨n + 1, ?_⟩
  rw [r.evaluate_reference n c hr]
  exact Option.bind_eq_some_iff.2 ⟨x, hx, hn⟩

/-- A judgement gives the verdict of a schema object with the same rules on other schemas, if these
have the verdicts that it rests on. -/
theorem Verdict.of_judge {c : κ} {ms : Members} {v : Json} {rules : List (Rule σ)} {f : σ → Json}
    {verdict : σ → Json → Option Bool} {b : Bool} (hr : (Json.obj ms).reference? = none)
    (hid : Members.get? ms "$id" = none)
    (hrules : Draft7.rules (Members.get? ms) = rules.map (·.map f))
    (hb : judge verdict rules v = some b)
    (h : ∀ d ∈ demands rules v, ∀ x, verdict d.1 d.2 = some x → r.Verdict c (f d.1) d.2 x) :
    r.Verdict c (.obj ms) v ((r.idiom c).admits (Members.get? ms) v && b) := by
  have hexists : ∀ d ∈ demands rules v, ∃ x, r.Verdict c (f d.1) d.2 x := by
    intro d hd
    obtain ⟨x, hx⟩ := Option.isSome_iff_exists.1 ((judge_eq_some.1 hb).1 d hd)
    exact ⟨x, h d hd x hx⟩
  obtain ⟨n, hn⟩ := exists_steps hexists
  refine ⟨n + 1, ?_⟩
  rw [r.evaluate_obj n c hr, hid, Option.isSome_none, if_neg Bool.false_ne_true, hrules, judge_map]
  exact Option.map_eq_some_iff.2
    ⟨b, judge_mono (fun d hd x hx => hn d hd x (h d hd x hx)) hb, rfl⟩

/-- A schema object has a verdict if all schemas that it demands have one. -/
theorem exists_verdict_obj {c : κ} {ms : Members} {v : Json}
    (hr : (Json.obj ms).reference? = none) (hid : Members.get? ms "$id" = none)
    (h : ∀ d ∈ demands (Draft7.rules (Members.get? ms)) v, ∃ b, r.Verdict c d.1 d.2 b) :
    ∃ b, r.Verdict c (.obj ms) v b := by
  obtain ⟨n, hn⟩ := exists_steps (f := id) h
  have hsome : ∀ d ∈ demands (Draft7.rules (Members.get? ms)) v,
      (r.evaluate n c d.1 d.2).isSome = true := by
    intro d hd
    obtain ⟨b, hb⟩ := h d hd
    exact Option.isSome_iff_exists.2 ⟨b, hn d hd b hb⟩
  obtain ⟨b, hb⟩ : ∃ b, judge (r.evaluate n c) (Draft7.rules (Members.get? ms)) v = some b :=
    ⟨_, judge_eq_some.2 ⟨hsome, rfl⟩⟩
  refine ⟨(r.idiom c).admits (Members.get? ms) v && b, n + 1, ?_⟩
  rw [r.evaluate_obj n c hr, hid, Option.isSome_none, if_neg Bool.false_ne_true, hb]
  rfl

/-- Whether there is a verdict does not depend on what objects ask for by themselves. -/
theorem evaluate_isSome (idioms idioms' : κ → Idiom)
    (resolve : κ → String → Option (κ × Json)) (n : Nat) (c : κ) (schema v : Json) :
    ((Reading.mk idioms resolve).evaluate n c schema v).isSome =
      ((Reading.mk idioms' resolve).evaluate n c schema v).isSome := by
  induction n generalizing c schema v with
  | zero => rfl
  | succ n ih =>
    cases hr : schema.reference? with
    | some reference =>
      rw [evaluate_reference _ n c hr, evaluate_reference _ n c hr]
      show (Option.bind (resolve c reference) _).isSome = (Option.bind (resolve c reference) _).isSome
      cases resolve c reference with
      | none => rfl
      | some x => exact ih x.1 x.2 v
    | none =>
      cases schema with
      | obj ms =>
        rw [evaluate_obj _ n c hr, evaluate_obj _ n c hr]
        split
        · rfl
        · simp only [Option.isSome_map, judge, ih]
          split <;> rfl
      | _ => rfl

end Reading
end MessageContract
