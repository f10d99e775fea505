import Mathlib.Data.Fintype.Card
import MessageContract.Proofs.Schema.Verdict

/-!
# Circles of schemas

A schema hands the value that it is applied to on to what its reference leads to, or else to schemas
in its rules (`Draft7.Hands`). Checking comes back to the same schema with the same value where that
goes in circles (`Draft7.Circular`), and ends if it never goes on forever (`Draft7.Ends`), which is
the same where finitely many schemas are reached (`Draft7.ends_iff_not_circular`). It ends with one
schema as it does with another that makes the same steps, or several for one
(`Draft7.ends_of_follows`, `Draft7.ends_of_lags`), and then there is a verdict on every value
(`Draft7.exists_verdict_of_ends`).
-/

namespace MessageContract.Draft7

namespace Rule

variable {σ τ : Type}

/-- The schemas under `allOf`, `anyOf`, `oneOf` and `not`. -/
def branches : Rule σ → List σ
  | allOf ss => ss
  | anyOf ss => ss
  | oneOf ss => ss
  | not s => [s]
  | _ => []

/-- All schemas in a rule. -/
def inside (rule : Rule σ) : List σ := rule.inPlace ++ rule.below

theorem branches_map (f : σ → τ) (rule : Rule σ) :
    (rule.map f).branches = rule.branches.map f := by
  cases rule <;> rfl

theorem branches_subset_inside (rule : Rule σ) : rule.branches ⊆ rule.inside := by
  cases rule with
  | allOf ss => exact List.subset_append_left ss []
  | anyOf ss => exact List.subset_append_left ss []
  | oneOf ss => exact List.subset_append_left ss []
  | not s => exact List.subset_append_left [s] []
  | _ => exact List.nil_subset _

/-- A choice of schemas in rules that goes by where they stand, not by what they are. -/
structure IsChoice (choice : Rule Json → List Json) : Prop where
  map : ∀ (f : Json → Json) rule, choice (rule.map f) = (choice rule).map f
  inside : ∀ rule, choice rule ⊆ rule.inside

theorem isChoice_branches : IsChoice branches := ⟨branches_map, branches_subset_inside⟩

theorem isChoice_inPlace : IsChoice inPlace :=
  ⟨Reading.inPlace_map, fun rule => List.subset_append_left rule.inPlace rule.below⟩

theorem isChoice_inside : IsChoice inside where
  map f rule := by
    rw [inside, Reading.inPlace_map, Reading.below_map, ← List.map_append]
    rfl
  inside _ := List.Subset.refl _

end Rule

variable {κ κ' : Type}

/-- From a schema to what its reference leads to, or else to the chosen schemas in its rules. -/
inductive Hands (resolve : κ → String → Option (κ × Json)) (choice : Rule Json → List Json) :
    κ × Json → κ × Json → Prop
  | reference {c : κ} {schema : Json} {r : String} {b : κ × Json}
      (names : schema.reference? = some r) (target : resolve c r = some b) :
      Hands resolve choice (c, schema) b
  | part {c : κ} {ms : Members} {rule : Rule Json} {x : Json}
      (plain : (Json.obj ms).reference? = none) (rule_mem : rule ∈ rules (Members.get? ms))
      (mem : x ∈ choice rule) : Hands resolve choice (c, .obj ms) (c, x)

/-- From a schema to the schemas in it, and through references. -/
def Reaches (resolve : κ → String → Option (κ × Json)) : κ × Json → κ × Json → Prop :=
  Relation.ReflTransGen (Hands resolve Rule.inside)

/-- A schema is reached that leads back to itself. The same schema in the same place counts as one,
since it hands on the same wherever it stands. -/
def Circular (resolve : κ → String → Option (κ × Json)) (choice : Rule Json → List Json)
    (a : κ × Json) : Prop :=
  ∃ b, Reaches resolve a b ∧ Relation.TransGen (Hands resolve choice) b b

/-- From no schema that is reached it goes on forever. -/
def Ends (resolve : κ → String → Option (κ × Json)) (choice : Rule Json → List Json)
    (a : κ × Json) : Prop :=
  ∀ b, Reaches resolve a b → Acc (flip (Hands resolve choice)) b

variable {resolve : κ → String → Option (κ × Json)} {resolve' : κ' → String → Option (κ' × Json)}
  {choice : Rule Json → List Json}

/-! ## Steps -/

theorem hands_reference {c : κ} {schema : Json} {r : String} (hr : schema.reference? = some r)
    {b : κ × Json} (h : Hands resolve choice (c, schema) b) : resolve c r = some b := by
  cases h with
  | reference hr' hb => exact Option.some.inj (hr'.symm.trans hr) ▸ hb
  | part hplain _ _ =>
    rw [hplain] at hr
    cases hr

theorem hands_plain {c : κ} {schema : Json} (hr : schema.reference? = none) {b : κ × Json}
    (h : Hands resolve choice (c, schema) b) :
    ∃ ms, schema = .obj ms ∧ ∃ rule ∈ rules (Members.get? ms), ∃ x ∈ choice rule, b = (c, x) := by
  cases h with
  | reference hr' _ =>
    rw [hr] at hr'
    cases hr'
  | part _ hrule hx => exact ⟨_, rfl, _, hrule, _, hx, rfl⟩

/-- What is no object hands nothing on. -/
theorem not_hands {c : κ} {schema : Json} (hobj : ∀ ms, schema ≠ .obj ms) {b : κ × Json} :
    ¬ Hands resolve choice (c, schema) b := by
  intro h
  cases h with
  | reference hr _ =>
    cases schema with
    | obj ms => exact hobj ms rfl
    | _ => cases hr
  | part _ _ _ => exact hobj _ rfl

/-- Where a value is handed on, a schema is reached. -/
theorem Hands.inside (hchoice : Rule.IsChoice choice) {a b : κ × Json}
    (h : Hands resolve choice a b) : Hands resolve Rule.inside a b := by
  cases h with
  | reference hr hb => exact .reference hr hb
  | part hplain hrule hx => exact .part hplain hrule (hchoice.inside _ hx)

/-! ## Ends and circles -/

theorem not_transGen_of_acc {α : Type} {r : α → α → Prop} {a : α} (h : Acc (flip r) a) :
    ¬ Relation.TransGen r a a := by
  intro hcircle
  replace hcircle := Relation.transGen_swap.1 hcircle
  replace h := h.transGen
  induction h with
  | intro a _ ih => exact ih a hcircle hcircle

/-- In a finite graph without circles nothing goes on forever. -/
theorem acc_of_finite {α : Type} {r : α → α → Prop} {S : Set α} (hfinite : S.Finite)
    (hclosed : ∀ a ∈ S, ∀ b, r a b → b ∈ S) (h : ∀ a ∈ S, ¬ Relation.TransGen r a a) {a : α}
    (ha : a ∈ S) : Acc (flip r) a := by
  have : Finite S := hfinite
  have : IsTrans S fun x y => Relation.TransGen r y.1 x.1 :=
    ⟨fun _ _ _ hxy hyz => Relation.TransGen.trans hyz hxy⟩
  have : Std.Irrefl fun x y : S => Relation.TransGen r y.1 x.1 := ⟨fun x => h x.1 x.2⟩
  have hwell : WellFounded fun x y : S => Relation.TransGen r y.1 x.1 :=
    Finite.wellFounded_of_trans_of_irrefl _
  suffices hall : ∀ x : S, Acc (flip r) x.1 from hall ⟨a, ha⟩
  intro x
  induction x using hwell.induction with
  | _ x ih =>
    exact Acc.intro _ fun b hb =>
      ih ⟨b, hclosed x.1 x.2 b hb⟩ (Relation.TransGen.single hb)

/-- Where finitely many schemas are reached, checking ends if there is no circle. -/
theorem ends_iff_not_circular (hchoice : Rule.IsChoice choice) {a : κ × Json}
    (hfinite : {b | Reaches resolve a b}.Finite) :
    Ends resolve choice a ↔ ¬ Circular resolve choice a := by
  constructor
  · rintro h ⟨b, hb, hcircle⟩
    exact not_transGen_of_acc (h b hb) hcircle
  · intro h b hb
    refine acc_of_finite hfinite (fun c hc d hd => ?_) (fun c hc hcircle => h ⟨c, hc, hcircle⟩) hb
    exact Relation.ReflTransGen.tail hc (hd.inside hchoice)

/-! ## Graphs that go together -/

/-- What follows something that ends comes to an end. -/
theorem acc_of_follows {α β : Type} {r : α → α → Prop} {t : β → β → Prop} {R : α → β → Prop}
    (hstep : ∀ a b, R a b → ∀ a', r a a' → ∃ b', R a' b' ∧ Relation.TransGen t b b') {a : α} {b : β}
    (h : R a b) (hb : Acc (flip t) b) : Acc (flip r) a := by
  replace hb := hb.transGen
  induction hb generalizing a with
  | intro b _ ih =>
    refine Acc.intro a fun a' ha' => ?_
    obtain ⟨b', hR, hsteps⟩ := hstep a b h a' ha'
    exact ih b' (Relation.transGen_swap.1 hsteps) hR

/-- What something that ends keeps up with comes to an end, if it lags behind only so long. -/
theorem acc_of_lags {α β : Type} {r : α → α → Prop} {t : β → β → Prop} {R : Nat → α → β → Prop}
    (hstep : ∀ n a b, R n a b → ∀ b', t b b' →
      ∃ m a', R m a' b' ∧ (a' = a ∧ m < n ∨ r a a')) {n : Nat} {a : α} {b : β}
    (h : R n a b) (ha : Acc (flip r) a) : Acc (flip t) b := by
  induction ha generalizing n b with
  | intro a _ ihStep =>
    induction n using Nat.strongRecOn generalizing b with
    | _ n ihLag =>
      refine Acc.intro b fun b' hb' => ?_
      obtain ⟨m, a', hR, ⟨rfl, hlt⟩ | hr⟩ := hstep n a b h b' hb'
      · exact ihLag m hlt hR
      · exact ihStep a' hr hR

/-- Checking ends with a schema whose steps follow those of another with which it ends. -/
theorem ends_of_follows {R : κ × Json → κ' × Json → Prop}
    (hstep : ∀ choice, Rule.IsChoice choice → ∀ a b, R a b → ∀ a', Hands resolve choice a a' →
      ∃ b', R a' b' ∧ Relation.TransGen (Hands resolve' choice) b b')
    (hchoice : Rule.IsChoice choice) {a : κ × Json} {b : κ' × Json} (h : R a b)
    (hb : Ends resolve' choice b) : Ends resolve choice a := by
  intro a' ha'
  have hreached : ∃ b', R a' b' ∧ Reaches resolve' b b' := by
    induction ha' with
    | refl => exact ⟨b, h, Relation.ReflTransGen.refl⟩
    | tail _ hlast ih =>
      obtain ⟨c, hR, hc⟩ := ih
      obtain ⟨c', hR', hsteps⟩ := hstep _ Rule.isChoice_inside _ _ hR _ hlast
      exact ⟨c', hR', Relation.ReflTransGen.trans hc hsteps.to_reflTransGen⟩
  obtain ⟨b', hR, hb'⟩ := hreached
  exact acc_of_follows (hstep choice hchoice) hR (hb b' hb')

/-- Checking ends with a schema that another one keeps up with, with which it ends. -/
theorem ends_of_lags {R : Nat → κ × Json → κ' × Json → Prop}
    (hstep : ∀ choice, Rule.IsChoice choice → ∀ n a b, R n a b → ∀ b', Hands resolve' choice b b' →
      ∃ m a', R m a' b' ∧ (a' = a ∧ m < n ∨ Hands resolve choice a a'))
    (hchoice : Rule.IsChoice choice) {n : Nat} {a : κ × Json} {b : κ' × Json} (h : R n a b)
    (ha : Ends resolve choice a) : Ends resolve' choice b := by
  intro b' hb'
  have hreached : ∃ m a', R m a' b' ∧ Reaches resolve a a' := by
    induction hb' with
    | refl => exact ⟨n, a, h, Relation.ReflTransGen.refl⟩
    | tail _ hlast ih =>
      obtain ⟨m, c, hR, hc⟩ := ih
      obtain ⟨m', c', hR', ⟨rfl, _⟩ | hr⟩ := hstep _ Rule.isChoice_inside _ _ _ hR _ hlast
      · exact ⟨m', c', hR', hc⟩
      · exact ⟨m', c', hR', Relation.ReflTransGen.tail hc hr⟩
  obtain ⟨m, a', hR, ha'⟩ := hreached
  exact acc_of_lags (hstep choice hchoice) hR (ha a' ha')

/-! ## Verdicts -/

/-- A schema leads somewhere if it is a reference, and has no name otherwise. -/
structure IsSound (resolve : κ → String → Option (κ × Json)) (a : κ × Json) : Prop where
  leads : ∀ r, a.2.reference? = some r → ∃ b, resolve a.1 r = some b
  noId : ∀ ms, a.2 = .obj ms → a.2.reference? = none → Members.get? ms "$id" = none

/-- Where checking ends every value has a verdict. -/
theorem exists_verdict_of_ends {r : Reading κ} {a : κ × Json}
    (hsound : ∀ b, Reaches r.resolve a b → IsSound r.resolve b)
    (h : Ends r.resolve Rule.inPlace a) (v : Json) : ∃ verdict, r.Verdict a.1 a.2 v verdict := by
  induction hn : v.count using Nat.strongRecOn generalizing a v with
  | _ n ihValue =>
    -- for one value, along the schemas that it is handed on to
    have ha := h a Relation.ReflTransGen.refl
    induction ha with
    | intro a _ ihSchema =>
      have hnext : ∀ b, Hands r.resolve Rule.inside a b →
          (∀ c, Reaches r.resolve b c → IsSound r.resolve c) ∧ Ends r.resolve Rule.inPlace b :=
        fun b hb => ⟨fun c hc => hsound c (Relation.ReflTransGen.head hb hc),
          fun c hc => h c (Relation.ReflTransGen.head hb hc)⟩
      obtain ⟨c, schema⟩ := a
      have hself := hsound (c, schema) Relation.ReflTransGen.refl
      cases hr : schema.reference? with
      | some name =>
        obtain ⟨b, hb⟩ := hself.leads name hr
        obtain ⟨hsound', hends'⟩ := hnext b (.reference hr hb)
        obtain ⟨verdict, hverdict⟩ := ihSchema b (.reference hr hb) hsound' hends'
        exact ⟨verdict, Reading.Verdict.reference hr hb hverdict⟩
      | none =>
        cases schema with
        | obj ms =>
          refine Reading.exists_verdict_obj hr (hself.noId ms rfl hr) fun d hd => ?_
          obtain ⟨rule, hrule, hdr⟩ := Reading.mem_demands.1 hd
          obtain ⟨x, w⟩ := d
          rcases Reading.demands_descend hdr with ⟨rfl, hin⟩ | ⟨hlt, hbelow⟩
          · obtain ⟨hsound', hends'⟩ :=
              hnext (c, x) (.part hr hrule (List.mem_append_left _ hin))
            exact ihSchema (c, x) (.part hr hrule hin) hsound' hends'
          · obtain ⟨hsound', hends'⟩ :=
              hnext (c, x) (.part hr hrule (List.mem_append_right _ hbelow))
            exact ihValue w.count (hn ▸ hlt) hsound' hends' w rfl
        | bool b => exact ⟨b, 1, Reading.evaluate_bool _ 0 c b v⟩
        | _ => exact ⟨true, 1, Reading.evaluate_other _ 0 c (by simp) (by simp) v⟩

end MessageContract.Draft7
