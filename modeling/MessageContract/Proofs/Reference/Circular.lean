import MessageContract.Proofs.Reference.Inlined
import MessageContract.Proofs.Reference.Origin
import MessageContract.Proofs.Reference.Stack

/-!
# Circular references

The references in the value of a target lead to other targets (`Sources.Edge`), and the references
of the root document to the first ones (`Sources.Calls`). Inlining goes along these edges with a
stack of what is under way and turns back only where a target is on the stack. Whatever is under way
leads to the value at hand (`Sources.Placed`), so a circular reference that is told of closes a
circle through another document. For the converse inlining has to come to the circle at a target
outside of the root document with nothing of the circle under way (`Sources.Reached.entry`): then it
goes around (`Sources.Entered.exists_told`). A circle that is entered at a target of the root
document is entered anew from the root document behind that target, if pointers are straight
(`Sources.Straight`).
-/

namespace MessageContract
namespace Sources

variable (s : Sources)

/-- A reference that is seen in a value of the document at `base` names the target. -/
def Calls (base : Location) (v : Json) (t : Target) : Prop :=
  ∃ h r w, v.Sees h ∧ h.reference? = some r ∧ s.target? base r = some (t, w)

/-- From a target to one that is named in its value. -/
def Edge (t t' : Target) : Prop := ∃ v, s.Names t v ∧ s.Calls t.location v t'

/-- References lead from the root document to the target. -/
def Reached (t : Target) : Prop :=
  ∃ t₀, s.Calls s.location s.root t₀ ∧ Relation.ReflTransGen s.Edge t₀ t

/-- The target lies in another document than the root. -/
def IsOutside (t : Target) : Prop := (t.location == s.location) = false

/-- What is told of a circular reference. -/
def circular (reference : String) : String :=
  "circular reference '" ++ reference ++ "' inside a referenced document"

variable {s}

/-! ## What is told -/

/-- Nothing else that is said of a reference begins as this does. -/
theorem complaint_ne_circular (reference r : String) : complaint reference ≠ circular r := by
  have hfront : ∀ (front rest : String) (c : Char), front.toList.head? = some c →
      (front ++ rest).toList.head? = some c := by
    intro front rest c hc
    rw [String.toList_append, List.head?_append, hc, Option.some_or]
  have hcircular : (circular r).toList.head? = some 'c' :=
    hfront _ _ _ (hfront "circular reference '" _ _ (by decide +kernel))
  have hcomplaint : (complaint reference).toList.head? ≠ some 'c' := by
    unfold complaint
    dsimp only
    split
    · rw [hfront _ _ 'u' (hfront "unsupported fragment in '" _ _ (by decide +kernel))]
      decide
    · rw [hfront _ _ '\'' (hfront "'" _ _ (by decide +kernel))]
      decide
  exact fun h => hcomplaint (h ▸ hcircular)

/-- A circular reference names a target of another document that is under way. -/
theorem exists_of_circular {stack : List Target} {base : Location} {reference r : String}
    (h : s.encounter stack base reference = .refused (circular r)) :
    ∃ t v, s.target? base reference = some (t, v) ∧ stack.any (· == t) = true ∧ s.IsOutside t := by
  unfold encounter at h
  split at h
  · next t v ht =>
    split at h
    · next hany =>
      split at h
      · cases h
      · next hroot => exact ⟨t, v, ht, hany, Bool.eq_false_iff.2 hroot⟩
    · cases h
  · split at h
    · cases h
    · exact absurd (Encounter.refused.inj h) (complaint_ne_circular _ _)

/-! ## Where inlining is -/

/-- The value at hand is seen from the root document, with nothing under way, or from the value of
the target that was entered last, with edges to it from all others under way. -/
inductive Placed (s : Sources) : Point → Prop
  | root {v : Json} (seen : s.root.Sees v) : Placed s ⟨[], s.location, v⟩
  | target {t : Target} {σ : List Target} {v w : Json} (names : s.Names t v) (seen : v.Sees w)
      (reached : s.Reached t)
      (below : ∀ t' ∈ σ, (∃ v', s.Names t' v') ∧ Relation.ReflTransGen s.Edge t' t) :
      Placed s ⟨t :: σ, t.location, w⟩

/-- What a reference names is reached, and there is a way to it from all that is under way. -/
theorem Placed.reference {p : Point} (h : s.Placed p) {r : String} {t : Target} {v : Json}
    (hr : p.value.reference? = some r) (ht : s.target? p.base r = some (t, v)) :
    s.Reached t ∧ ∀ t' ∈ p.stack, (∃ v', s.Names t' v') ∧ Relation.TransGen s.Edge t' t := by
  cases h with
  | root seen => exact ⟨⟨t, ⟨_, r, v, seen, hr, ht⟩, Relation.ReflTransGen.refl⟩, by simp⟩
  | @target top σ u w names seen reached below =>
    have hedge : s.Edge top t := ⟨u, names, w, r, v, seen, hr, ht⟩
    obtain ⟨t₀, hcalls, hpath⟩ := reached
    refine ⟨⟨t₀, hcalls, hpath.tail hedge⟩, fun t' ht' => ?_⟩
    rcases List.mem_cons.1 ht' with rfl | ht'
    · exact ⟨⟨u, names⟩, Relation.TransGen.single hedge⟩
    · obtain ⟨hnames, hpath'⟩ := below t' ht'
      exact ⟨hnames, Relation.TransGen.tail' hpath' hedge⟩

theorem Step.placed {p q : Point} (hstep : s.Step p q) (h : s.Placed p) : s.Placed q := by
  cases hstep with
  | part hr hw =>
    cases h with
    | root seen => exact .root (seen.child hr hw)
    | target names seen reached below => exact .target names (seen.child hr hw) reached below
  | enter he =>
    obtain ⟨hr, ht, _⟩ := he
    obtain ⟨hreached, hways⟩ := h.reference hr ht
    refine .target (names_of_target? ht) (Json.Sees.refl _) hreached fun t' ht' => ?_
    obtain ⟨hnames, hway⟩ := hways t' ht'
    exact ⟨hnames, hway.to_reflTransGen⟩

theorem Meets.placed {p : Point} (h : s.Meets s.start p) : s.Placed p := by
  induction h with
  | refl => exact .root (Json.Sees.refl _)
  | tail _ hstep ih => exact hstep.placed ih

/-- A reference to what is under way closes a circle. -/
theorem Meets.closes {p : Point} (h : s.Meets s.start p) {r : String} {t : Target} {v : Json}
    (hr : p.value.reference? = some r) (ht : s.target? p.base r = some (t, v))
    (hany : p.stack.any (· == t) = true) : s.Reached t ∧ Relation.TransGen s.Edge t t := by
  obtain ⟨hreached, hways⟩ := h.placed.reference hr ht
  obtain ⟨t', ht', heq⟩ := List.any_eq_true.1 hany
  obtain ⟨⟨v', hv'⟩, hway⟩ := hways t' ht'
  obtain ⟨rfl, -⟩ := hv'.unique (names_of_target? ht) heq
  exact ⟨hreached, hway⟩

/-! ## Entering targets -/

theorem exists_suffix_of_mem {t : Target} {σ : List Target} (h : t ∈ σ) : ∃ τ, t :: τ <:+ σ := by
  obtain ⟨front, τ, rfl⟩ := List.append_of_mem h
  exact ⟨τ, front, rfl⟩

/-- Inlining gets to the value of a target, with others under way. -/
def Entered (s : Sources) (t : Target) (σ : List Target) : Prop :=
  ∃ v, s.Names t v ∧ s.Meets s.start ⟨t :: σ, t.location, v⟩

/-- Whatever is under way was entered. -/
theorem Meets.entered {p : Point} (h : s.Meets s.start p) {t : Target} {σ : List Target}
    (hsuffix : t :: σ <:+ p.stack) : s.Entered t σ := by
  induction h with
  | refl => simp [start] at hsuffix
  | @tail p q hp hstep ih =>
    cases hstep with
    | part _ _ => exact ih hsuffix
    | enter he =>
      have hq := Relation.ReflTransGen.tail hp (Step.enter he)
      obtain ⟨_, ht, _⟩ := he
      rcases List.suffix_cons_iff.1 hsuffix with heq | hsuffix
      · cases heq
        exact ⟨_, names_of_target? ht, hq⟩
      · exact ih hsuffix

theorem Entered.of_suffix {t x : Target} {σ τ : List Target} (h : s.Entered t σ)
    (hsuffix : x :: τ <:+ t :: σ) : s.Entered x τ := by
  obtain ⟨v, _, hmeets⟩ := h
  exact hmeets.entered hsuffix

/-- What counts as under way is under way. -/
theorem Meets.mem_of_any {p : Point} (h : s.Meets s.start p) {t : Target} {v : Json}
    (ht : s.Names t v) (hany : p.stack.any (· == t) = true) : t ∈ p.stack := by
  obtain ⟨t', ht', heq⟩ := List.any_eq_true.1 hany
  obtain ⟨τ, hsuffix⟩ := exists_suffix_of_mem ht'
  obtain ⟨v', hv', _⟩ := h.entered hsuffix
  obtain ⟨rfl, -⟩ := hv'.unique ht heq
  exact ht'

/-- Along an edge from a target that is entered inlining gets to a reference. -/
theorem Entered.exists_reference {t t' : Target} {σ : List Target} (h : s.Entered t σ)
    (hedge : s.Edge t t') :
    ∃ p r v, s.Meets s.start p ∧ p.stack = t :: σ ∧ p.value.reference? = some r ∧
      s.target? p.base r = some (t', v) := by
  obtain ⟨v, hv, hmeets⟩ := h
  obtain ⟨v', hv', x, r, w, hsees, hr, ht⟩ := hedge
  obtain ⟨-, rfl⟩ := hv.unique hv' (BEq.refl t)
  have hpart : s.Meets ⟨t :: σ, t.location, v⟩ ⟨t :: σ, t.location, x⟩ := meets_sees hsees
  exact ⟨_, r, w, Relation.ReflTransGen.trans hmeets hpart, rfl, hr, ht⟩

/-- A target that is not under way is entered. -/
theorem Entered.edge {t t' : Target} {σ : List Target} (h : s.Entered t σ) (hedge : s.Edge t t')
    (hfresh : t' ∉ t :: σ) : s.Entered t' (t :: σ) := by
  obtain ⟨p, r, v, hmeets, hstack, hr, ht⟩ := h.exists_reference hedge
  have hnames := names_of_target? ht
  have hany : p.stack.any (· == t') = false := by
    rw [Bool.eq_false_iff]
    exact fun hany => hfresh (hstack ▸ hmeets.mem_of_any hnames hany)
  have henter := Relation.ReflTransGen.tail hmeets (Step.enter (Enters.mk hr ht hany))
  rw [hstack] at henter
  exact ⟨v, hnames, henter⟩

/-- What the root document refers to is entered with nothing else under way. -/
theorem entered_of_calls {t : Target} (h : s.Calls s.location s.root t) : s.Entered t [] := by
  obtain ⟨x, r, v, hsees, hr, ht⟩ := h
  exact ⟨v, names_of_target? ht,
    Relation.ReflTransGen.tail (meets_of_sees hsees) (Step.enter (Enters.mk hr ht rfl))⟩

/-! ## Going around -/

/-- Nothing that the target leads to is among the others. -/
def Clear (s : Sources) (t : Target) (σ : List Target) : Prop :=
  ∀ y ∈ σ, ¬ Relation.ReflTransGen s.Edge t y

theorem Clear.of_leads {t x : Target} {σ : List Target} (h : s.Clear t σ)
    (htx : Relation.ReflTransGen s.Edge t x) : s.Clear x σ :=
  fun y hy hxy => h y hy (htx.trans hxy)

/-- What a target leads to is entered above it if nothing on the way is under way below. -/
theorem Entered.onward {b c : Target} {σ : List Target} (h : s.Entered b σ)
    (hpath : Relation.ReflTransGen s.Edge b c) (hclear : s.Clear b σ) :
    ∃ τ, s.Entered c τ ∧ b :: σ <:+ c :: τ := by
  induction hpath with
  | refl => exact ⟨σ, h, List.suffix_refl _⟩
  | @tail c c' hpath hedge ih =>
    obtain ⟨τ, hc, hsuffix⟩ := ih
    by_cases hmem : c' ∈ c :: τ
    · -- already under way: at `b` or above it
      obtain ⟨τ', hcut⟩ := exists_suffix_of_mem hmem
      refine ⟨τ', hc.of_suffix hcut, ?_⟩
      rcases List.suffix_or_suffix_of_suffix hsuffix hcut with hle | hle
      · exact hle
      · rcases List.suffix_cons_iff.1 hle with heq | hle
        · rw [heq]
        · exact absurd (hpath.tail hedge) (hclear c' (hle.mem List.mem_cons_self))
    · exact ⟨c :: τ, hc.edge hedge hmem, hsuffix.trans (List.suffix_cons c' (c :: τ))⟩

/-- A circle is told of where it is entered outside of the root document with nothing of it under
way. -/
theorem Entered.exists_told {b : Target} {σ : List Target} (h : s.Entered b σ)
    (hcircle : Relation.TransGen s.Edge b b) (houtside : s.IsOutside b) (hclear : s.Clear b σ) :
    ∃ f ∈ s.inline.findings, ∃ r, f.message = circular r := by
  obtain ⟨c, hpath, hedge⟩ := Relation.TransGen.tail'_iff.1 hcircle
  obtain ⟨τ, hc, hsuffix⟩ := h.onward hpath hclear
  obtain ⟨p, r, v, hmeets, hstack, hr, ht⟩ := hc.exists_reference hedge
  have hany : p.stack.any (· == b) = true := by
    rw [hstack, List.any_eq_true]
    exact ⟨b, hsuffix.mem List.mem_cons_self, BEq.refl b⟩
  obtain ⟨f, hf, hmessage⟩ := hmeets.refused hr (encounter_circular ht hany houtside)
  exact ⟨f, hf, r, hmessage⟩

/-! ## Coming to a circle -/

/-- What the value of a target in the root document refers to, the root document refers to. -/
theorem Straight.calls (h : s.Straight) {t t' : Target} {σ : List Target} (ht : s.Entered t σ)
    (hinside : ¬ s.IsOutside t) (hedge : s.Edge t t') : s.Calls s.location s.root t' := by
  obtain ⟨v, hv, hmeets⟩ := ht
  obtain ⟨v', hv', x, r, w, hsees, hr, htarget⟩ := hedge
  obtain ⟨-, rfl⟩ := hv.unique hv' (BEq.refl t)
  have hroot : (t.location == s.location) = true := by
    rwa [IsOutside, Bool.not_eq_false] at hinside
  obtain ⟨d, hd, hbase, hseen⟩ := h.exists_sees hmeets
  rw [find?_empty, if_pos hroot] at hd
  cases hd
  have hlocation : s.location = t.location := hbase
  exact ⟨x, r, w, hseen.trans hsees, hr, hlocation ▸ htarget⟩

/-- How far inlining has come on the way to `u`, towards the circle that `t` lies on: not yet to
anything that `t` leads to, or it entered that at `x`, and outside of the root document if `u` lies
there. -/
inductive Entry (s : Sources) (t u : Target) : Prop
  | ahead {σ : List Target} (off : ¬ Relation.ReflTransGen s.Edge t u) (entered : s.Entered u σ)
      (clear : s.Clear t σ) : Entry s t u
  | on {x : Target} {σ : List Target} (entered : s.Entered x σ) (clear : s.Clear t σ)
      (forth : Relation.ReflTransGen s.Edge t x) (back : Relation.ReflTransGen s.Edge x u)
      (outside : s.IsOutside u → s.IsOutside x) : Entry s t u

theorem entry_of_calls {t u : Target} (h : s.Calls s.location s.root u) : s.Entry t u := by
  have hentered : s.Entered u [] := entered_of_calls h
  have hclear : s.Clear t [] := by simp [Clear]
  by_cases htu : Relation.ReflTransGen s.Edge t u
  · exact .on hentered hclear htu Relation.ReflTransGen.refl id
  · exact .ahead htu hentered hclear

/-- From a target that `t` does not lead to, the next is entered, or it was before. -/
theorem Entered.entry {t u u' : Target} {σ : List Target} (h : s.Entered u σ)
    (hoff : ¬ Relation.ReflTransGen s.Edge t u) (hclear : s.Clear t σ) (hedge : s.Edge u u') :
    s.Entry t u' := by
  have hstack : s.Clear t (u :: σ) := by
    intro y hy
    rcases List.mem_cons.1 hy with rfl | hy
    · exact hoff
    · exact hclear y hy
  by_cases hmem : u' ∈ u :: σ
  · obtain ⟨τ, hcut⟩ := exists_suffix_of_mem hmem
    exact .ahead (hstack u' hmem) (h.of_suffix hcut) fun y hy =>
      hstack y (hcut.mem (List.mem_cons_of_mem _ hy))
  · have hentered := h.edge hedge hmem
    by_cases htu : Relation.ReflTransGen s.Edge t u'
    · exact .on hentered hstack htu Relation.ReflTransGen.refl id
    · exact .ahead htu hentered hstack

theorem Entry.edge (hs : s.Straight) {t u u' : Target} (h : s.Entry t u) (hedge : s.Edge u u') :
    s.Entry t u' := by
  cases h with
  | ahead off entered clear => exact entered.entry off clear hedge
  | on entered clear forth back outside =>
    by_cases hout : s.IsOutside u
    · exact .on entered clear forth (back.tail hedge) fun _ => outside hout
    · -- behind a target of the root document the next is entered from the root document
      obtain ⟨τ, hu, _⟩ := entered.onward back (clear.of_leads forth)
      exact entry_of_calls (hs.calls hu hout hedge)

/-- Inlining comes to all that is reached. -/
theorem Reached.entry (hs : s.Straight) {t u : Target} (h : s.Reached u) : s.Entry t u := by
  obtain ⟨t₀, hcalls, hpath⟩ := h
  induction hpath with
  | refl => exact entry_of_calls hcalls
  | tail _ hedge ih => exact ih.edge hs hedge

/-! ## Circles -/

/-- The finding is made at a reference that inlining comes to while what the reference names is
under way, in another document than the root, so that it closes a circle. -/
inductive ClosesOutside (s : Sources) : Diagnostic → Prop
  | mk {p : Point} {r : String} {t : Target} {v : Json} {path : List String}
      (meets : s.Meets s.start p) (reference : p.value.reference? = some r)
      (target : s.target? p.base r = some (t, v)) (underWay : p.stack.any (· == t) = true)
      (reached : s.Reached t) (circle : Relation.TransGen s.Edge t t) (outside : s.IsOutside t) :
      ClosesOutside s (Reference.finding s.location p.base path (circular r))

/-- What is told of circles of references. -/
structure CircularReports (s : Sources) : Prop where
  /-- Something is told exactly if a circle that references of the root document lead to goes
  through another document. -/
  told_iff : (∃ f ∈ s.inline.findings, ∃ r, f.message = circular r) ↔
    ∃ t, s.Reached t ∧ Relation.TransGen s.Edge t t ∧ s.IsOutside t
  /-- Whatever is told is told of a reference that closes a circle at a target of another
  document. -/
  closes : ∀ f ∈ s.inline.findings, (∃ r, f.message = circular r) → s.ClosesOutside f
  /-- Nothing is told of a reference that closes a circle at a target of the root document. -/
  silent : ∀ p r t v, s.Keeps p r t v → ∀ fuel path,
    walk (s.follow fuel p.stack p.base) path p.value = ⟨backEdge t.pointer p.value, []⟩

theorem closesOutside_of_circular {f : Diagnostic} (hf : f ∈ s.inline.findings)
    (hmessage : ∃ r, f.message = circular r) : s.ClosesOutside f := by
  obtain ⟨p, r, path, message, hp, hr, hmet, rfl⟩ := exists_refused_of_mem_inline hf
  obtain ⟨r', hmessage⟩ := hmessage
  obtain rfl : message = circular r' := hmessage
  obtain ⟨t, v, ht, hany, hout⟩ := exists_of_circular hmet
  obtain ⟨hreached, hcircle⟩ := hp.closes hr ht hany
  have hsame := (encounter_circular ht hany hout).symm.trans hmet
  rw [← Encounter.refused.inj hsame]
  exact .mk hp hr ht hany hreached hcircle hout

theorem Keeps.walk_eq {p : Point} {r : String} {t : Target} {v : Json} (h : s.Keeps p r t v)
    (fuel : Nat) (path : List String) :
    walk (s.follow fuel p.stack p.base) path p.value = ⟨backEdge t.pointer p.value, []⟩ := by
  have hmet : s.encounter p.stack p.base r = .kept t.pointer := by
    simp [encounter, h.target, h.underWay, h.root]
  rw [walk_reference h.reference, follow_eq, hmet]
  rfl

/-- Circular references are told of exactly for the circles through other documents. -/
theorem circular_reports (h : s.Straight) : s.CircularReports where
  told_iff := by
    constructor
    · rintro ⟨f, hf, hmessage⟩
      cases closesOutside_of_circular hf hmessage with
      | @mk _ _ t _ _ _ _ _ _ reached circle outside => exact ⟨t, reached, circle, outside⟩
    · rintro ⟨t, hreached, hcircle, hout⟩
      have hentry : s.Entry t t := hreached.entry h
      cases hentry with
      | ahead off _ _ => exact absurd Relation.ReflTransGen.refl off
      | @on x σ entered clear forth back outside =>
        have hround : Relation.TransGen s.Edge x x :=
          Relation.TransGen.trans_right back (Relation.TransGen.trans_left hcircle forth)
        exact entered.exists_told hround (outside hout) (clear.of_leads forth)
  closes _ hf hmessage := closesOutside_of_circular hf hmessage
  silent _ _ _ _ hk := hk.walk_eq

/-- Documents whose pointers pass no reference object anywhere are straight. -/
theorem straight_of_parts (h : ∀ d ∈ s.documents, ∀ v ∈ d.2.parts, ∀ r ∈ v.reference?,
    ∀ e ∈ s.find? d.1 (Reference.document r), e.2.IsStraight (Reference.fragment r)) :
    s.Straight := by
  intro p r d v hp hr hd _
  obtain ⟨e, he, hbase, hholds⟩ := hp.stands (stands_start s)
  rw [← hbase] at hd
  exact h e he p.value hholds.mem_parts r hr d hd

/-- A circle through the root document and another one, which the root document enters on both
sides. -/
def mixedLoop : Sources where
  root := .obj [("node", .obj [("next", .obj [("$ref", .str "tree.yaml#/node")])]),
    ("use", .obj [("$ref", .str "#/node")])]
  location := .file (.ofString "/specs/asyncapi.yaml")
  store := [(.file (.ofString "/specs/tree.yaml"),
    .obj [("node", .obj [("back", .obj [("$ref", .str "asyncapi.yaml#/node")])])])]

/-- It is told of once: entered behind the root document, and not where it closes there. -/
theorem circular_reports_mixedLoop : mixedLoop.Straight ∧ mixedLoop.CircularReports ∧
    mixedLoop.inline.findings.map Diagnostic.message = [circular "tree.yaml#/node"] := by
  have hstraight : mixedLoop.Straight := straight_of_parts (by decide +kernel)
  exact ⟨hstraight, circular_reports hstraight, by decide +kernel⟩

end Sources
end MessageContract
