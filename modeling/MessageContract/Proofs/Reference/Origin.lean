import Mathlib.Data.Set.Finite.Lattice
import MessageContract.Proofs.Acceptance
import MessageContract.Proofs.Reference.Point
import MessageContract.Proofs.Schema.Parts
import MessageContract.Proofs.Uri.Fragment

/-!
# The raw documents as a graph

What stands in a raw document, with references followed only when they are looked into
(`Sources.Refers`, `Sources.Under`). Documents are tidy (`Sources.Tidy`) if pointers pass no
reference object and need no escapes (`Sources.Direct`), and if every circle of references passes
through a keyword that descends into the instance. Then every reference that inlining comes to finds
its document (`Direct.found`), and no edge back is kept before such a keyword is passed
(`Rooted.not_keeps`).
-/

namespace MessageContract

/-- A value in a raw document. -/
structure Origin where
  base : Location
  value : Json

/-- The raw value of a point. -/
def Point.origin (p : Point) : Origin := ⟨p.base, p.value⟩

namespace Sources

variable (s : Sources)

/-- Where a reference in a raw document leads. -/
def resolve (base : Location) (reference : String) : Option (Location × Json) :=
  (s.target? base reference).map fun x => (x.1.location, x.2)

/-- A reference and what it names. -/
def Refers (o o' : Origin) : Prop :=
  ∃ r, o.value.reference? = some r ∧ s.resolve o.base r = some (o'.base, o'.value)

/-- References are followed until there is none. -/
def Leaps (o o' : Origin) : Prop :=
  Relation.ReflTransGen s.Refers o o' ∧ o'.value.reference? = none

/-- What stands under a name, seen through references. -/
def Under (o : Origin) (name : String) (o' : Origin) : Prop :=
  ∃ q, s.Leaps o q ∧ q.value.get? name = some o'.value ∧ o'.base = q.base

/-- The root document. -/
def rootOrigin : Origin := ⟨s.location, s.root⟩

/-- The object that holds the messages, seen through references. -/
def HoldsMessages (o : Origin) : Prop :=
  ∃ components messages, s.Under s.rootOrigin "components" components ∧
    s.Under components "messages" messages ∧ s.Leaps messages o

/-- From a reference to what it names, and from a value to its parts, but for those under keywords
that descend into the instance; the names of messages and those in `dependencies` are no keywords. -/
inductive Link : Origin → Origin → Prop
  | refers {o o' : Origin} (h : s.Refers o o') : Link o o'
  | item {o : Origin} {items : List Json} {w : Json} (value : o.value = .arr items)
      (mem : w ∈ items) : Link o { o with value := w }
  | member {o : Origin} {ms : Members} {name : String} {w : Json} (value : o.value = .obj ms)
      (plain : o.value.reference? = none) (mem : (name, w) ∈ ms)
      (stays : name ∉ Draft7.descending ∨ s.HoldsMessages o) : Link o { o with value := w }
  | dependency {o : Origin} {ms ds : Members} {name : String} {w : Json}
      (value : o.value = .obj ms) (plain : o.value.reference? = none)
      (entries : ("dependencies", .obj ds) ∈ ms) (open_ : (Json.obj ds).reference? = none)
      (mem : (name, w) ∈ ds) : Link o { o with value := w }

/-- Where a reference that inlining comes to leads to a value, its pointer passes no reference
object. -/
def Straight : Prop :=
  ∀ p r d v, s.Meets s.start p → p.value.reference? = some r →
    s.find? p.base (Reference.document r) = some d →
    d.2.pointer? (Reference.fragment r) = some v → d.2.IsStraight (Reference.fragment r)

/-- Pointers lead to the same places before and after inlining. -/
structure Direct (s : Sources) : Prop where
  /-- No pointer passes a reference object. -/
  straight : ∀ p r d, s.Meets s.start p → p.value.reference? = some r →
    s.find? p.base (Reference.document r) = some d → d.2.IsStraight (Reference.fragment r)
  /-- Pointers are made of the characters of a fragment, without escapes. -/
  plain : ∀ p r, s.Meets s.start p → p.value.reference? = some r →
    ∀ c ∈ (Reference.fragment r).toList, Uri.isFragmentChar c = true ∧ c ≠ '%'

/-- What is asked of documents for their references to be read the same before and after inlining. -/
structure Tidy (s : Sources) : Prop where
  /-- No pointer passes a reference object. -/
  straight : ∀ p r d, s.Meets s.start p → p.value.reference? = some r →
    s.find? p.base (Reference.document r) = some d → d.2.IsStraight (Reference.fragment r)
  /-- Pointers are made of the characters of a fragment, without escapes. -/
  plain : ∀ p r, s.Meets s.start p → p.value.reference? = some r →
    ∀ c ∈ (Reference.fragment r).toList, Uri.isFragmentChar c = true ∧ c ≠ '%'
  /-- Every circle passes through a keyword that descends into the instance. -/
  descends : ∀ p, s.Meets s.start p → ¬ Relation.TransGen s.Link p.origin p.origin

variable {s}

theorem Tidy.direct (h : s.Tidy) : s.Direct := ⟨h.straight, h.plain⟩

/-! ## References -/

theorem refers_of_enters {p q : Point} (h : s.Enters p q) : s.Refers p.origin q.origin := by
  obtain ⟨hr, ht, _⟩ := h
  refine ⟨_, hr, ?_⟩
  rw [resolve, show s.target? p.origin.base _ = _ from ht]
  rfl

theorem Keeps.refers {p : Point} {r : String} {t : Target} {v : Json} (hk : s.Keeps p r t v) :
    s.Refers p.origin ⟨t.location, v⟩ := by
  refine ⟨r, hk.reference, ?_⟩
  rw [resolve, show s.target? p.origin.base r = _ from hk.target]
  rfl

theorem refers_of_leads {p q : Point} (h : s.Leads p q) :
    Relation.ReflTransGen s.Refers p.origin q.origin := by
  induction h with
  | refl => exact Relation.ReflTransGen.refl
  | tail _ he ih => exact Relation.ReflTransGen.tail ih (refers_of_enters he)

theorem meets_of_leads {p q : Point} (h : s.Leads p q) : s.Meets p q := by
  induction h with
  | refl => exact Meets.refl p
  | tail _ he ih => exact Relation.ReflTransGen.tail ih (Step.enter he)

theorem refers_unique {o o₁ o₂ : Origin} (h₁ : s.Refers o o₁) (h₂ : s.Refers o o₂) : o₁ = o₂ := by
  obtain ⟨r, hr, hx⟩ := h₁
  obtain ⟨r', hr', hx'⟩ := h₂
  obtain rfl := Option.some.inj (hr.symm.trans hr')
  obtain ⟨hbase, hvalue⟩ := Prod.mk.inj (Option.some.inj (hx.symm.trans hx'))
  cases o₁
  cases o₂
  cases hbase
  cases hvalue
  rfl

theorem not_refers_of_plain {o o' : Origin} (ho : o.value.reference? = none) : ¬ s.Refers o o' := by
  rintro ⟨r, hr, _⟩
  rw [ho] at hr
  cases hr

/-- References lead to one value at most that is no reference object. -/
theorem Leaps.unique {o o₁ o₂ : Origin} (h₁ : s.Leaps o o₁) (h₂ : s.Leaps o o₂) : o₁ = o₂ := by
  obtain ⟨hchain, hend⟩ := h₁
  induction hchain using Relation.ReflTransGen.head_induction_on with
  | refl =>
    rcases Relation.ReflTransGen.cases_head h₂.1 with heq | ⟨o', hstep, _⟩
    · exact heq
    · exact absurd hstep (not_refers_of_plain hend)
  | head hstep _ ih =>
    rcases Relation.ReflTransGen.cases_head h₂.1 with rfl | ⟨o', hstep', hrest⟩
    · exact absurd hstep (not_refers_of_plain h₂.2)
    · exact ih (refers_unique hstep hstep' ▸ ⟨hrest, h₂.2⟩)

/-- A value that is no reference leads to itself. -/
theorem Leaps.eq_of_plain {o o' : Origin} (h : s.Leaps o o') (ho : o.value.reference? = none) :
    o' = o :=
  h.unique ⟨Relation.ReflTransGen.refl, ho⟩

theorem Under.get?_of_plain {o o' : Origin} {name : String} (h : s.Under o name o')
    (ho : o.value.reference? = none) : o.value.get? name = some o'.value ∧ o'.base = o.base := by
  obtain ⟨q, hq, hget, hbase⟩ := h
  obtain rfl := hq.eq_of_plain ho
  exact ⟨hget, hbase⟩

/-! ## Documents that are found -/

theorem find?_congr_base {l l' : Location} (h : (l == l') = true) :
    s.find? l "" = s.find? l' "" := by
  have hroot : (l == s.location) = (l' == s.location) := by
    rw [Bool.eq_iff_iff]
    exact ⟨fun hl => BEq.trans (BEq.symm h) hl, fun hl => BEq.trans h hl⟩
  have hstore : s.store.find? l = s.store.find? l' := by
    unfold Documents.find?
    congr 1
    funext d
    rw [Bool.eq_iff_iff]
    exact ⟨fun hd => BEq.trans hd h, fun hd => BEq.trans hd (BEq.symm h)⟩
  rw [find?_empty, find?_empty, hroot, hstore]

/-- A document is found under the location it is kept under. -/
theorem find?_kept {base : Location} {document : String} {d : Location × Json}
    (h : s.find? base document = some d) : s.find? d.1 "" = some d := by
  obtain ⟨l, _, hl⟩ := Option.bind_eq_some_iff.1 h
  have hkept : (d.1 == l) = true ∧ s.find? l "" = some d := by
    refine ⟨?_, (find?_empty l).trans hl⟩
    split at hl
    · next hroot =>
      rw [← Option.some.inj hl]
      exact BEq.symm hroot
    · exact List.find?_some (p := fun e : Location × Json => e.1 == l) hl
  rw [find?_congr_base hkept.1]
  exact hkept.2

/-- What a target stands for. -/
def Names (s : Sources) (t : Target) (v : Json) : Prop :=
  ∃ d, s.find? t.location "" = some d ∧ d.1 = t.location ∧ d.2.pointer? t.pointer = some v

theorem names_of_target? {base : Location} {r : String} {t : Target} {v : Json}
    (h : s.target? base r = some (t, v)) : s.Names t v := by
  obtain ⟨d, hd, hv⟩ := Option.bind_eq_some_iff.1 h
  obtain ⟨w, hw, heq⟩ := Option.map_eq_some_iff.1 hv
  obtain ⟨rfl, rfl⟩ := Prod.mk.inj heq
  exact ⟨d, find?_kept hd, rfl, hw⟩

/-- Targets that count as one are one, and stand for one value. -/
theorem Names.unique {t t' : Target} {v v' : Json} (h : s.Names t v) (h' : s.Names t' v')
    (heq : (t == t') = true) : t = t' ∧ v = v' := by
  obtain ⟨hlocation, hpointer⟩ := Bool.and_eq_true_iff.1 heq
  obtain ⟨d, hd, hdt, hv⟩ := h
  obtain ⟨d', hd', hdt', hv'⟩ := h'
  rw [find?_congr_base hlocation] at hd
  obtain rfl := Option.some.inj (hd.symm.trans hd')
  obtain ⟨l, pointer⟩ := t
  obtain ⟨l', pointer'⟩ := t'
  obtain rfl : pointer = pointer' := beq_iff_eq.1 hpointer
  cases hdt
  cases hdt'
  exact ⟨rfl, Option.some.inj (hv.symm.trans hv')⟩

/-! ## Direct pointers -/

/-- The value of a point is seen from its document. -/
def StandsOpen (s : Sources) (p : Point) : Prop :=
  ∃ d ∈ s.documents, d.1 = p.base ∧ d.2.Sees p.value

theorem Direct.toStraight (h : s.Direct) : s.Straight :=
  fun p r d _ hp hr hd _ => h.straight p r d hp hr hd

/-- Where pointers are straight, what inlining gets to is seen from its document. -/
theorem Straight.exists_sees (h : s.Straight) {p : Point} (hp : s.Meets s.start p) :
    ∃ d, s.find? p.base "" = some d ∧ d.1 = p.base ∧ d.2.Sees p.value := by
  induction hp with
  | refl =>
    have hroot : s.find? s.location "" = some (s.location, s.root) :=
      (find?_empty s.location).trans (if_pos (BEq.refl s.location))
    exact ⟨(s.location, s.root), hroot, rfl, Json.Sees.refl _⟩
  | @tail p q hp hstep ih =>
    cases hstep with
    | part hr hw =>
      obtain ⟨d, hd, hbase, hsees⟩ := ih
      exact ⟨d, hd, hbase, hsees.child hr hw⟩
    | enter he =>
      obtain ⟨hr, ht, _⟩ := he
      obtain ⟨d, hd, hv⟩ := Option.bind_eq_some_iff.1 ht
      obtain ⟨w, hw, heq⟩ := Option.map_eq_some_iff.1 hv
      obtain ⟨rfl, rfl⟩ := Prod.mk.inj heq
      exact ⟨d, find?_kept hd, rfl, Json.sees_of_pointer (h p _ d w hp hr hd hw) hw⟩

theorem Direct.standsOpen (h : s.Direct) {p : Point} (hp : s.Meets s.start p) : s.StandsOpen p := by
  obtain ⟨d, hd, hbase, hsees⟩ := h.toStraight.exists_sees hp
  exact ⟨d, find?_mem hd, hbase, hsees⟩

/-- Where pointers are direct every reference that inlining comes to finds its document. -/
theorem Direct.found {w : World} {settings : FetchSettings} {raw : Json} {location : Location}
    (hf : (w.loadReferences settings raw location).findings = [])
    (h : (w.sources settings raw location).Direct) {p : Point}
    (hp : (w.sources settings raw location).Meets (w.sources settings raw location).start p)
    {r : String} (hr : p.value.reference? = some r) :
    (w.sources settings raw location).find? p.base (Reference.document r) ≠ none := by
  obtain ⟨d, hd, hbase, hsees⟩ := h.standsOpen hp
  cases hempty : (Reference.document r).isEmpty with
  | true =>
    have hself := find?_self hd
    rw [find?_congr_of_isEmpty hempty, ← hbase]
    exact Option.isSome_iff_ne_none.1 hself
  | false =>
    obtain ⟨site, hsite, rfl⟩ := Reference.exists_site_of_sees hsees hr
    obtain ⟨target, hjoin, ht⟩ := World.exists_document_of_site hf hd hsite hempty
    rw [← hbase]
    exact Option.isSome_iff_ne_none.1
      (find?_of_join (s := w.sources settings raw location) hempty hjoin ht)

/-! ## Values under way -/

/-- Links lead to a point from every value that is under way there. -/
def Rooted (s : Sources) (p : Point) : Prop :=
  ∀ t ∈ p.stack, ∃ v, s.Names t v ∧ Relation.ReflTransGen s.Link ⟨t.location, v⟩ p.origin

theorem rooted_start (s : Sources) : s.Rooted s.start := by
  intro t ht
  cases ht

theorem Rooted.link {p : Point} (h : s.Rooted p) {w : Json}
    (hlink : s.Link p.origin ⟨p.base, w⟩) : s.Rooted { p with value := w } := by
  intro t ht
  obtain ⟨v, hv, hlinks⟩ := h t ht
  exact ⟨v, hv, Relation.ReflTransGen.tail hlinks hlink⟩

theorem Rooted.enters {p q : Point} (h : s.Rooted p) (he : s.Enters p q) : s.Rooted q := by
  have hlink := Link.refers (refers_of_enters he)
  obtain ⟨hr, ht, _⟩ := he
  intro t' ht'
  rcases List.mem_cons.1 ht' with rfl | ht'
  · exact ⟨_, names_of_target? ht, Relation.ReflTransGen.refl⟩
  · obtain ⟨v, hv, hlinks⟩ := h t' ht'
    exact ⟨v, hv, Relation.ReflTransGen.tail hlinks hlink⟩

theorem Rooted.leads {p q : Point} (h : s.Rooted p) (hq : s.Leads p q) : s.Rooted q := by
  induction hq with
  | refl => exact h
  | tail _ he ih => exact ih.enters he

/-- An edge back closes a circle. -/
theorem Rooted.not_keeps {p : Point} (h : s.Rooted p)
    (hp : ¬ Relation.TransGen s.Link p.origin p.origin) {r : String} {t : Target} {v : Json} :
    ¬ s.Keeps p r t v := by
  intro hk
  obtain ⟨t', ht', heq⟩ := List.any_eq_true.1 hk.underWay
  obtain ⟨v', hv', hlinks⟩ := h t' ht'
  obtain ⟨rfl, rfl⟩ := hv'.unique (names_of_target? hk.target) heq
  exact hp (Relation.TransGen.head' (Link.refers hk.refers) hlinks)

end Sources
end MessageContract
