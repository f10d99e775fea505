import Mathlib.Logic.Relation
import Mathlib.Tactic.SplitIfs
import MessageContract.Proofs.Except
import MessageContract.Yaml.Load

/-!
# Distinct keys

A key that is one with an earlier key of its mapping makes a text no document, so the keys in every
mapping of a document are distinct (`Yaml.load_hasDistinctKeys`).
-/

namespace MessageContract.Yaml

/-! ## Mappings inside a value -/

/-- The values right inside a value: items, values of entries, and what has a tag. -/
def children : Yaml → List Yaml
  | .seq items => items
  | .map entries => entries.map (·.2)
  | .tagged _ y => [y]
  | _ => []

/-- The second value stands in the first, at any depth. -/
def Holds : Yaml → Yaml → Prop := Relation.ReflTransGen fun y z => z ∈ y.children

/-- Each mapping of a value, at any depth, has a property. -/
def EachMapping (P : List (Yaml × Yaml) → Prop) (y : Yaml) : Prop :=
  ∀ entries, y.Holds (.map entries) → P entries

namespace EachMapping
variable {P : List (Yaml × Yaml) → Prop} {y z : Yaml} {entries : List (Yaml × Yaml)}

theorem child (h : y.EachMapping P) (hz : z ∈ y.children) : z.EachMapping P :=
  fun entries hentries => h entries (Relation.ReflTransGen.head hz hentries)

theorem here (h : (Yaml.map entries).EachMapping P) : P entries :=
  h entries Relation.ReflTransGen.refl

theorem value (h : (Yaml.map entries).EachMapping P) {e : Yaml × Yaml} (he : e ∈ entries) :
    e.2.EachMapping P :=
  h.child (List.mem_map.2 ⟨e, he, rfl⟩)

/-- It can be seen from the parts of a value. -/
theorem of_children (h : ∀ z ∈ y.children, z.EachMapping P)
    (hmap : ∀ entries, y = .map entries → P entries) : y.EachMapping P := by
  intro entries hentries
  rcases Relation.ReflTransGen.cases_head hentries with heq | ⟨z, hz, hentries⟩
  · exact hmap entries heq
  · exact h z hz entries hentries

theorem leaf (hy : y.children = []) (hmap : ∀ entries, y ≠ .map entries) : y.EachMapping P := by
  refine of_children (fun z hz => ?_) fun entries heq => absurd heq (hmap entries)
  rw [hy] at hz
  cases hz

theorem seq {items : List Yaml} (h : ∀ z ∈ items, z.EachMapping P) :
    (Yaml.seq items).EachMapping P :=
  of_children h (by simp)

theorem map (hentries : P entries) (h : ∀ e ∈ entries, e.2.EachMapping P) :
    (Yaml.map entries).EachMapping P := by
  refine of_children (fun z hz => ?_) fun es heq => Yaml.map.inj heq ▸ hentries
  obtain ⟨e, he, rfl⟩ := List.mem_map.1 hz
  exact h e he

theorem tagged {tag : String} (h : y.EachMapping P) : (Yaml.tagged tag y).EachMapping P := by
  refine of_children (fun z hz => ?_) (by simp)
  rw [List.mem_singleton.1 hz]
  exact h

end EachMapping

/-- In each mapping of a value no two keys are one. -/
def HasDistinctKeys (y : Yaml) : Prop :=
  y.EachMapping fun entries => entries.Pairwise fun e e' => same e.1 e'.1 = false

/-! ## Loading -/

theorem ofInteger_hasDistinctKeys {text : String} {y : Yaml}
    (h : Scalar.ofInteger text = some (.value y)) : y.HasDistinctKeys := by
  obtain ⟨n, -, hn⟩ := Option.bind_eq_some_iff.1 h
  rw [Scalar.ofInteger?] at hn
  split at hn
  · cases hn
    exact .leaf rfl (by simp)
  · split at hn <;> cases hn

theorem ofPlain_hasDistinctKeys {text : String} {y : Yaml}
    (h : Scalar.ofPlain text = .value y) : y.HasDistinctKeys := by
  rw [Scalar.ofPlain] at h
  split at h
  · cases h
    exact .leaf rfl (by simp)
  · split at h
    · cases h
      exact .leaf rfl (by simp)
    · split at h
      · next m hm => exact ofInteger_hasDistinctKeys (hm.trans (congrArg some h))
      · split at h <;> cases h <;> exact .leaf rfl (by simp)

/-- A scalar has no mapping inside. -/
theorem scalarValue_hasDistinctKeys {tag : Option String} {text : String} {style : Style} {y : Yaml}
    (h : scalarValue tag text style = .ok y) : y.HasDistinctKeys := by
  unfold scalarValue at h
  extract_lets settle at h
  have hsettle : ∀ m, settle m = .ok y → m = .value y := by
    intro m hm
    cases m with
    | value v => exact congrArg _ (Except.ok.inj hm)
    | wide n => cases hm
  split_ifs at h
  · split at h
    · cases h
      exact .leaf rfl (by simp)
    · cases h
  · split at h
    · next m hm => exact ofInteger_hasDistinctKeys (hm.trans (congrArg some (hsettle m h)))
    · cases h
  · split at h
    · cases h
      exact .leaf rfl (by simp)
    · cases h
  · cases h
    exact .leaf rfl (by simp)
  · exact ofPlain_hasDistinctKeys (hsettle _ h)
  · cases h
    exact .leaf rfl (by simp)

namespace Document

/-- What is made of the parts of a document within some steps has distinct keys, with the items or
entries before it, which are kept last first. -/
structure MakesDistinct (d : Document) (fuel : Nat) : Prop where
  value : ∀ {depth path pos jumps b}, d.value fuel depth path pos jumps = .ok b →
    b.value.HasDistinctKeys
  items : ∀ {depth path index acc pos jumps b}, d.items fuel depth path index acc pos jumps = .ok b →
    (Yaml.seq acc.reverse).HasDistinctKeys → (Yaml.seq b.value).HasDistinctKeys
  entries : ∀ {depth path start acc pos jumps b},
    d.entries fuel depth path start acc pos jumps = .ok b →
    (Yaml.map acc.reverse).HasDistinctKeys → (Yaml.map b.value).HasDistinctKeys

namespace MakesDistinct
variable {d : Document} {fuel depth pos jumps : Nat} {path : Path}

theorem value_succ (h : d.MakesDistinct fuel) {b : Built Yaml}
    (hb : d.value (fuel + 1) depth path pos jumps = .ok b) : b.value.HasDistinctKeys := by
  rw [Document.value.eq_def] at hb
  dsimp -zeta only at hb
  split at hb
  · cases hb
  next part mark hpart =>
  extract_lets tagged at hb
  have htagged : ∀ tag (b : Built Yaml), b.value.HasDistinctKeys →
      (tagged tag b).value.HasDistinctKeys := by
    intro tag b hb
    unfold tagged
    split
    · exact .tagged hb
    · exact hb
  split at hb
  · split at hb
    · cases hb
    · obtain ⟨b', hb', rfl⟩ := map_eq_ok hb
      have hvalue := h.value hb'
      exact hvalue
  · extract_lets plainTag at hb
    split at hb
    · next v hv =>
      cases hb
      exact htagged _ _ (scalarValue_hasDistinctKeys hv)
    · cases hb
  · split at hb
    · cases hb
    · obtain ⟨b', hb', rfl⟩ := map_eq_ok hb
      exact htagged _ _ (h.items hb' (.seq (by simp)))
  · split at hb
    · cases hb
    · obtain ⟨b', hb', rfl⟩ := map_eq_ok hb
      exact htagged _ _ (h.entries hb' (.map List.Pairwise.nil (by simp)))
  · cases hb
    exact .leaf rfl (by simp)

theorem items_succ (h : d.MakesDistinct fuel) {index : Nat} {acc : List Yaml}
    {b : Built (List Yaml)} (hb : d.items (fuel + 1) depth path index acc pos jumps = .ok b)
    (hacc : (Yaml.seq acc.reverse).HasDistinctKeys) : (Yaml.seq b.value).HasDistinctKeys := by
  rw [Document.items.eq_def] at hb
  dsimp only at hb
  split at hb
  · cases hb
  · cases hb
    exact hacc
  · split at hb
    · cases hb
    · next item hitem =>
      refine h.items hb (.seq fun y hy => ?_)
      rw [List.reverse_cons, List.mem_append, List.mem_singleton] at hy
      rcases hy with hy | rfl
      · exact hacc.child hy
      · exact h.value hitem

/-- A new key is no other name for an earlier one: that was an error. -/
theorem entries_succ (h : d.MakesDistinct fuel) {start : Mark} {acc : List (Yaml × Yaml)}
    {b : Built (List (Yaml × Yaml))}
    (hb : d.entries (fuel + 1) depth path start acc pos jumps = .ok b)
    (hacc : (Yaml.map acc.reverse).HasDistinctKeys) : (Yaml.map b.value).HasDistinctKeys := by
  rw [Document.entries.eq_def] at hb
  dsimp only at hb
  split at hb
  · cases hb
  · cases hb
    exact hacc
  · split at hb
    · cases hb
    · next key hkey =>
      split at hb
      · cases hb
      · next hfresh =>
        split at hb
        · cases hb
        · next v hv =>
          refine h.entries hb (.map ?_ fun e he => ?_)
          · rw [List.reverse_cons, List.pairwise_append]
            refine ⟨hacc.here, List.pairwise_singleton _ _, fun e he e' he' => ?_⟩
            rw [List.mem_singleton.1 he']
            simp only [List.any_eq_true, not_exists, not_and, Bool.not_eq_true] at hfresh
            exact hfresh e (List.mem_reverse.1 he)
          · rw [List.reverse_cons, List.mem_append, List.mem_singleton] at he
            rcases he with he | rfl
            · exact hacc.value he
            · exact h.value hv

end MakesDistinct

theorem makesDistinct (d : Document) (fuel : Nat) : d.MakesDistinct fuel := by
  induction fuel with
  | zero =>
    refine ⟨fun hb => ?_, fun hb => ?_, fun hb => ?_⟩
    · rw [Document.value.eq_def] at hb
      cases hb
    · rw [Document.items.eq_def] at hb
      cases hb
    · rw [Document.entries.eq_def] at hb
      cases hb
  | succ fuel ih => exact ⟨ih.value_succ, ih.items_succ, ih.entries_succ⟩

end Document

/-- A document has distinct keys. -/
theorem load_hasDistinctKeys {text : String} {y : Yaml} (h : load text = .ok y) :
    y.HasDistinctKeys := by
  rw [load] at h
  dsimp only at h
  obtain ⟨b, hb, hrest⟩ := bind_eq_ok h
  split at hrest
  · cases hrest
  · split at hrest
    · cases hrest
    · cases hrest
      exact (Document.makesDistinct _ _).value hb

end MessageContract.Yaml
