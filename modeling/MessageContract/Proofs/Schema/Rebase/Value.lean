import MessageContract.Proofs.Schema.Served

/-!
# Schemas whose references are rebased

Rebasing changes nothing in a schema but texts under `$ref`, so it keeps its size, its draft, its
name and its anchors, and the schemas in it are those from before, rebased (`Rebases.inside`). A
schema is free of references (`Draft.IsFree`) if there are none in all the places where schemas are
looked for.
-/

namespace MessageContract

/-- A value, and what becomes of it under some name. -/
inductive Rebases : Json → Json → Prop
  | value (v : Json) : Rebases v (rebase v)
  | text {s : String} (hash : s.startsWith "#" = true) :
    Rebases (.str s) (.str (documentUri ++ s))

theorem rebases_member (k : String) (v : Json) : Rebases v (rebaseMember k v) := by
  cases v with
  | str s =>
    rw [rebaseMember]
    split
    · next h => exact .text (Bool.and_eq_true_iff.1 h).2
    · exact .value (.str s)
  | _ => exact .value _

theorem get?_rebase {k : String} (hk : k ≠ "$ref") (v : Json) :
    (rebase v).get? k = (v.get? k).map rebase := by
  cases v with
  | obj ms => exact get?_rebaseMembers hk ms
  | _ => rfl

theorem isSome_get?_rebase (k : String) (v : Json) :
    ((rebase v).get? k).isSome = (v.get? k).isSome := by
  cases v with
  | obj ms =>
    show (Members.get? (rebaseMembers ms) k).isSome = (Members.get? ms k).isSome
    rw [rebaseMembers_eq, Members.get?_map, Option.isSome_map]
  | _ => rfl

theorem asString?_rebase (v : Json) : (rebase v).asString? = v.asString? := by
  cases v <;> rfl

/-- Texts that do not stand under `$ref` stay. -/
theorem text_rebase {k : String} (hk : k ≠ "$ref") (v : Json) :
    ((rebase v).get? k).bind Json.asString? = (v.get? k).bind Json.asString? := by
  rw [get?_rebase hk]
  cases v.get? k with
  | none => rfl
  | some x => exact asString?_rebase x

/-! ## Size -/

/-- What holds of texts and of rebased values holds of what becomes of a value. -/
theorem Rebases.rec_eq {α : Type} {f : Json → α} (htext : ∀ s t, f (.str s) = f (.str t))
    {v w : Json} (hvalue : f (rebase v) = f v) (h : Rebases v w) : f w = f v := by
  cases h with
  | value => exact hvalue
  | text hash => exact htext _ _

theorem Json.IsSize.rebase_eq {size : Json → Nat} {items : List Json → Nat}
    {members : Members → Nat} {op : Nat → Nat → Nat} (h : IsSize size items members op) (v : Json) :
    size (rebase v) = size v := by
  induction v using Json.children_induction with
  | _ v ih =>
    cases v with
    | obj ms =>
      have hmembers : ∀ m ∈ ms, size (rebaseMember m.1 m.2) = size m.2 := fun m hm =>
        (rebases_member m.1 m.2).rec_eq h.text (ih m.2 (List.mem_map.2 ⟨m, hm, rfl⟩))
      rw [rebase, rebaseMembers_eq, h.obj, h.obj,
        Json.IsSize.map_eq_of_cons h.members_cons hmembers]
    | arr xs =>
      have hitems : ∀ x ∈ xs, size (rebase x) = size x := ih
      rw [rebase, rebaseItems_eq, h.arr, h.arr, Json.IsSize.map_eq_of_cons h.items_cons hitems]
    | _ => rfl

theorem count_rebase (v : Json) : (rebase v).count = v.count := Json.isSize_count.rebase_eq v

theorem depth_rebase (v : Json) : (rebase v).depth = v.depth := Json.isSize_depth.rebase_eq v

namespace Rebases

variable {v w : Json}

theorem count (h : Rebases v w) : w.count = v.count := h.rec_eq (fun _ _ => rfl) (count_rebase v)

theorem depth (h : Rebases v w) : w.depth = v.depth := h.rec_eq (fun _ _ => rfl) (depth_rebase v)

/-! ## What a schema says about itself -/

theorem text_eq (h : Rebases v w) {k : String} (hk : k ≠ "$ref") :
    (w.get? k).bind Json.asString? = (v.get? k).bind Json.asString? :=
  h.rec_eq (f := fun v => (v.get? k).bind Json.asString?) (fun _ _ => rfl) (text_rebase hk v)

theorem detect (h : Rebases v w) (d : Draft) : d.detect w = d.detect v := by
  rw [Draft.detect, Draft.detect, h.text_eq (by decide)]

theorem nameText? (h : Rebases v w) (d : Draft) : d.nameText? w = d.nameText? v := by
  rw [Draft.nameText?, Draft.nameText?, h.text_eq (by cases d <;> decide)]

theorem isSome_get? (h : Rebases v w) (k : String) : (w.get? k).isSome = (v.get? k).isSome :=
  h.rec_eq (f := fun v => (v.get? k).isSome) (fun _ _ => rfl) (isSome_get?_rebase k v)

theorem name? (h : Rebases v w) (d : Draft) : d.name? w = d.name? v := by
  rw [Draft.name?, Draft.name?, h.nameText?, h.isSome_get?]

theorem base (h : Rebases v w) (d : Draft) (around : Uri) :
    Resource.base ⟨w, d⟩ around = Resource.base ⟨v, d⟩ around := by
  simp only [Resource.base, h.name?]

theorem nameOf (h : Rebases v w) : Resources.nameOf w = Resources.nameOf v := by
  rw [Resources.nameOf, Resources.nameOf, h.name?]

theorem dialect (h : Rebases v w) (d : Draft) :
    Resource.dialect ⟨w, d⟩ = Resource.dialect ⟨v, d⟩ := by
  simp only [Resource.dialect, h.detect]

end Rebases

/-! ## Schemas in a schema -/

theorem forall₂_rebase (xs : List Json) : List.Forall₂ Rebases xs (xs.map rebase) := by
  rw [List.forall₂_map_right_iff]
  exact List.forall₂_same.2 fun x _ => .value x

theorem forall₂_rebaseMembers (ms : Members) :
    List.Forall₂ (fun m n => m.1 = n.1 ∧ Rebases m.2 n.2) ms (rebaseMembers ms) := by
  rw [rebaseMembers_eq, List.forall₂_map_right_iff]
  exact List.forall₂_same.2 fun m _ => ⟨rfl, rebases_member m.1 m.2⟩

theorem forall₂_rebaseMembers_of_ne {ms : Members} (href : "$ref" ∉ ms.map (·.1)) :
    List.Forall₂ (fun m n => m ∈ ms ∧ n = (m.1, rebase m.2)) ms (rebaseMembers ms) := by
  rw [rebaseMembers_eq, List.forall₂_map_right_iff]
  refine List.forall₂_same.2 fun m hm => ⟨hm, ?_⟩
  rw [rebaseMember_keyword fun heq => href (heq ▸ List.mem_map_of_mem hm)]

theorem forall₂_valuesOf (v : Json) :
    List.Forall₂ Rebases (Draft.valuesOf v) (Draft.valuesOf (rebase v)) := by
  cases v with
  | obj ms =>
    show List.Forall₂ Rebases (ms.map (·.2)) ((rebaseMembers ms).map (·.2))
    rw [List.forall₂_map_left_iff, List.forall₂_map_right_iff]
    exact (forall₂_rebaseMembers ms).imp fun _ _ h => h.2
  | _ => exact .nil

theorem forall₂_listed (v : Json) :
    List.Forall₂ Rebases (Draft.listed v) (Draft.listed (rebase v)) := by
  cases v with
  | arr xs =>
    show List.Forall₂ Rebases xs (rebaseItems xs)
    rw [rebaseItems_eq]
    exact forall₂_rebase xs
  | _ => exact .nil

namespace Draft

/-- References that are read in a draft. -/
def referenceKeywords : Draft → List String
  | draft2019 => ["$ref", "$recursiveRef"]
  | draft2020 => ["$ref", "$dynamicRef"]
  | _ => ["$ref"]

/-- The schemas under a keyword, with those of tuples and conditions, which are looked for in every
draft. -/
def schemasAt (d : Draft) (keyword : String) (v : Json) : List Json :=
  d.schemasUnder keyword v ++
    if keyword = "items" then listed v
    else if keyword ∈ ["if", "then", "else"] then [v]
    else []

/-- The draft of a schema inside. One that asks for what is no draft is read by the last one. -/
def draftIn (around : Draft) (schema : Json) : Draft :=
  ((around.detect schema).toOption).getD .draft2020

/-- The places where schemas are looked for, each with its draft. A schema whose name leads nowhere
may be read by the draft around it. -/
inductive Looks (d : Draft) (v : Json) : Draft → Json → Prop
  | here : Looks d v d v
  | inside {d' : Draft} {ms : Members} {m : String × Json} {x : Json}
      (outer : Looks d v d' (.obj ms)) (member : m ∈ ms) (schema : x ∈ d'.schemasAt m.1 m.2) :
      Looks d v (d'.draftIn x) x
  | astray {d' : Draft} {ms : Members} {m : String × Json} {x : Json} {around : Uri}
      {e : ReferenceError} (outer : Looks d v d' (.obj ms)) (member : m ∈ ms)
      (schema : x ∈ d'.schemasAt m.1 m.2)
      (nowhere : Resource.base ⟨x, d'.draftIn x⟩ around = .error e) : Looks d v d' x

/-- No schema is a reference. -/
def IsFree (d : Draft) (v : Json) : Prop :=
  ∀ d' ms, Looks d v d' (.obj ms) → ∀ k ∈ d'.referenceKeywords, k ∉ ms.map (·.1)

/-- Rebasing changes nothing in the data that schemas compare values with. -/
def KeepsData (d : Draft) (v : Json) : Prop :=
  ∀ d' ms, Looks d v d' (.obj ms) → ∀ m ∈ ms, m.1 ∈ ["const", "enum"] → rebase m.2 = m.2

variable {d d' : Draft} {v x y : Json} {ms : Members}

theorem Looks.trans {d'' : Draft} (h : Looks d v d' x) (hy : Looks d' x d'' y) :
    Looks d v d'' y := by
  induction hy with
  | here => exact h
  | inside _ member schema ih => exact .inside ih member schema
  | astray _ member schema nowhere ih => exact .astray ih member schema nowhere

/-- Schemas are looked for among places that lead to no others. -/
theorem Looks.within (places : List Json)
    (hclosed : ∀ ms, .obj ms ∈ places → ∀ m ∈ ms, ∀ y ∈ d.schemasAt m.1 m.2,
      y ∈ places ∧ d.draftIn y = d) (hv : v ∈ places) (h : Looks d v d' x) :
    d' = d ∧ x ∈ places := by
  induction h with
  | here => exact ⟨rfl, hv⟩
  | inside _ member schema ih =>
    obtain ⟨rfl, hplace⟩ := ih
    obtain ⟨hx, hdraft⟩ := hclosed _ hplace _ member _ schema
    exact ⟨hdraft, hx⟩
  | astray _ member schema _ ih =>
    obtain ⟨rfl, hplace⟩ := ih
    exact ⟨rfl, (hclosed _ hplace _ member _ schema).1⟩

theorem IsFree.looks (h : d.IsFree v) (hx : Looks d v d' x) : d'.IsFree x :=
  fun d'' ms hms => h d'' ms (hx.trans hms)

theorem KeepsData.looks (h : d.KeepsData v) (hx : Looks d v d' x) : d'.KeepsData x :=
  fun d'' ms hms => h d'' ms (hx.trans hms)

theorem IsFree.get?_reference (h : d.IsFree (.obj ms)) {k : String}
    (hk : k ∈ d.referenceKeywords) : Members.get? ms k = none :=
  Members.get?_eq_none_iff.2 (h d ms .here k hk)

theorem mem_referenceKeywords (d : Draft) : "$ref" ∈ d.referenceKeywords := by
  cases d <;> decide

theorem forall₂_schemasUnder (d : Draft) (k : String) (v : Json) :
    List.Forall₂ Rebases (d.schemasUnder k v) (d.schemasUnder k (rebaseMember k v)) := by
  by_cases hk : k = "$ref"
  · subst hk
    cases d <;> exact .nil
  rw [rebaseMember_keyword hk]
  unfold schemasUnder
  by_cases hschema : d.schemaKeywords.contains k
  · rw [if_pos hschema, if_pos hschema]
    exact .cons (.value v) .nil
  rw [if_neg hschema, if_neg hschema]
  by_cases hlist : d.listKeywords.contains k
  · rw [if_pos hlist, if_pos hlist]
    exact forall₂_listed v
  rw [if_neg hlist, if_neg hlist]
  by_cases hobject : d.objectKeywords.contains k
  · rw [if_pos hobject, if_pos hobject]
    exact forall₂_valuesOf v
  rw [if_neg hobject, if_neg hobject]
  by_cases hmixed : d.mixedKeywords.contains k
  · rw [if_pos hmixed, if_pos hmixed]
    by_cases hitems : k = "items"
    · subst hitems
      cases v with
      | arr xs => exact forall₂_listed (.arr xs)
      | _ => exact .cons (Rebases.value _) .nil
    · split
      · exact absurd rfl hitems
      · exact absurd rfl hitems
      · split
        · exact absurd rfl hitems
        · exact absurd rfl hitems
        · exact forall₂_valuesOf v
  · rw [if_neg hmixed, if_neg hmixed]
    exact .nil

/-- The schemas in a rebased schema are those from before, rebased. -/
theorem forall₂_inside (d : Draft) {w : Json} (h : Rebases v w) :
    List.Forall₂ Rebases (d.inside v) (d.inside w) := by
  cases h with
  | text hash => exact .nil
  | value =>
    cases v with
    | obj ms =>
      rw [rebase, rebaseMembers_eq, inside, inside, List.flatMap_map]
      exact List.rel_flatMap (List.forall₂_same.2 fun m _ => rfl) fun m n h => by
        subst h
        exact d.forall₂_schemasUnder m.1 m.2
    | _ => exact .nil

/-- The schemas that are gathered are looked for. -/
theorem looks_of_mem_inside (h : x ∈ d.inside v) : Looks d v (d.draftIn x) x := by
  cases v with
  | obj ms =>
    obtain ⟨m, hm, hx⟩ := List.mem_flatMap.1 h
    exact .inside .here hm (List.mem_append_left _ hx)
  | _ => cases h

end Draft
end MessageContract
