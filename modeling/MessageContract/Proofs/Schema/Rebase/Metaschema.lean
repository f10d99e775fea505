import MessageContract.Proofs.Schema.Metaschema
import MessageContract.Proofs.Schema.Rebase.Acceptance
import MessageContract.Proofs.Schema.Rebase.Gathering

/-!
# Rebased schemas before the schema of schemas

The schema of schemas accepts a schema before it is rebased if and only if it does so after
(`CompiledSchema.metaViolation?_rebase`), whatever stands in it.
-/

namespace MessageContract

/-! ## Keywords without schemas in them -/

theorem hasType_rebase (strict : Bool) (t : TypeName) (v : Json) :
    Keyword.hasType strict t (rebase v) = Keyword.hasType strict t v := by
  cases t <;> cases v <;> rfl

theorem same_str_rebase (s : String) (v : Json) :
    Json.same (.str s) (rebase v) = Json.same (.str s) v := by
  cases v <;> rfl

theorem isNumberSuch_rebase (p : Number → Bool) (v : Json) :
    Keyword.isNumberSuch p (rebase v) = Keyword.isNumberSuch p v := by
  cases v <;> rfl

theorem isTextSuch_rebase (p : String → Bool) (v : Json) :
    Keyword.isTextSuch p (rebase v) = Keyword.isTextSuch p v := by
  cases v <;> rfl

theorem keepsSize_rebase (kind : Size) (limit : Nat) (v : Json) :
    Keyword.keepsSize kind limit (rebase v) = Keyword.keepsSize kind limit v := by
  have hmeasure : Keyword.measure? kind.measure (rebase v) = Keyword.measure? kind.measure v := by
    cases v with
    | obj ms =>
      cases kind.measure <;> simp [rebase, Keyword.measure?, rebaseMembers_eq]
    | arr xs =>
      cases kind.measure <;> simp [rebase, Keyword.measure?, rebaseItems_eq]
    | _ => rfl
  rw [Keyword.keepsSize, Keyword.keepsSize, hmeasure]

namespace Keyword

/-- A keyword that asks for a type, a size, a bound, a format, or one of several texts. -/
def isPlain : Keyword → Bool
  | type _ _ => true
  | enum options => options.all Json.isString
  | bound _ _ => true
  | size _ _ => true
  | format _ _ => true
  | _ => false

variable {inner : Inner} {path q : List String} {k : Keyword}

theorem violations_plain (h : k.isPlain = true) (v : Json) :
    violations inner path ⟨rebase v, q⟩ k = [] ↔ violations inner path ⟨v, q⟩ k = [] := by
  cases k with
  | type names strict => simp only [violations, demand_eq_nil_iff, hasType_rebase]
  | enum options =>
    have hsame : ∀ o ∈ options, Json.same o (rebase v) = Json.same o v := by
      intro o ho
      obtain ⟨s, hs⟩ := Option.isSome_iff_exists.1 (List.all_eq_true.1 h o ho)
      cases o with
      | str s => exact same_str_rebase s v
      | _ => cases hs
    simp only [violations, demand_eq_nil_iff, List.any_eq_true]
    exact exists_congr fun o => and_congr_right fun ho => by rw [hsame o ho]
  | bound kind limit => simp only [violations, demand_eq_nil_iff, isNumberSuch_rebase]
  | size kind limit => simp only [violations, demand_eq_nil_iff, keepsSize_rebase]
  | format name f => simp only [violations, demand_eq_nil_iff, isTextSuch_rebase]
  | _ => cases h

theorem itemSpots_rebase (v : Json) (q : List String) :
    itemSpots ⟨rebase v, q⟩ = (itemSpots ⟨v, q⟩).map fun s => ⟨rebase s.value, s.path⟩ := by
  cases v with
  | arr xs =>
    simp only [rebase, rebaseItems_eq, itemSpots, List.zipIdx_map, List.map_map]
    rfl
  | _ => rfl

theorem membersOf_rebase (v : Json) (q : List String) :
    membersOf ⟨rebase v, q⟩ = rebaseMembers (membersOf ⟨v, q⟩) := by
  cases v <;> rfl

theorem depth_lt_of_mem_itemSpots {v : Json} {t : Spot} (h : t ∈ itemSpots ⟨v, q⟩) :
    t.value.depth < v.depth := by
  cases v with
  | arr xs =>
    obtain ⟨x, hx, rfl⟩ := List.mem_map.1 h
    exact Json.depth_lt_of_mem_children (List.fst_mem_of_mem_zipIdx hx)
  | _ => cases h

theorem depth_lt_of_mem_membersOf {v : Json} {m : String × Json} (h : m ∈ membersOf ⟨v, q⟩) :
    m.2.depth < v.depth := by
  cases v with
  | obj ms => exact Json.depth_lt_of_mem_children (List.mem_map.2 ⟨m, h, rfl⟩)
  | _ => cases h

end Keyword

namespace Metaschema.Piece

open Resources (standard)

/-! ## Steps that suffice -/

/-- How many steps a piece takes at the same value, and one more. -/
def need : Piece → Nat
  | limitFromZero => 4
  | fromZero => 3
  | typeKeyword => 3
  | items => 3
  | dependency => 3
  | whole => 2
  | list => 2
  | limit => 2
  | names => 2
  | typeName => 2
  | _ => 1

theorem need_le (p : Piece) : p.need ≤ 4 := by
  cases p <;> decide

theorem one_le_need (p : Piece) : 1 ≤ p.need := by
  cases p <;> decide

theorem need_lt_of_target {p q : Piece} {target : String} (h : p.target? = some (target, q)) :
    q.need < p.need := by
  cases p <;> first | cases h; done | (obtain ⟨rfl, rfl⟩ := Prod.mk.inj (Option.some.inj h); decide)

/-- What the pieces in a clause of a piece have to be. -/
def allows (p : Piece) : Clause → Bool
  | .plain k => k.isPlain
  | .reference target => p.target?.any (·.1 == target)
  | .items q => q != top
  | .distinctItems => p == stringArray || p == typeList
  | .members q => q == whole || q == dependency
  | .allOf qs => qs.all fun q => q != top && q.need < p.need
  | .anyOf qs => qs.all fun q => q != top && q.need < p.need
  | _ => true

theorem allows_of_mem {p : Piece} {c : Clause} (h : c ∈ p.clauses) : p.allows c = true := by
  have hall : p.clauses.all p.allows = true := by cases p <;> decide +kernel
  exact List.all_eq_true.1 hall c h

/-! ## References -/

variable {fuel : Nat} {scope : Scope} {p q : Piece} {target : String}

theorem clauses_of_target (h : p.target? = some (target, q)) :
    p.schema = reference target ∧ p.clauses = [.reference target] := by
  cases p <;> first
    | cases h; done
    | (obtain ⟨rfl, rfl⟩ := Prod.mk.inj (Option.some.inj h); exact ⟨rfl, rfl⟩)

theorem get?_ref_of_target (h : p.target? = some (target, q)) : q.schema.get? "$ref" = none := by
  cases p <;> first | cases h; done | (obtain ⟨rfl, rfl⟩ := Prod.mk.inj (Option.some.inj h); rfl)

theorem violations_obj {ms : Members} (hscope : scope.IsMeta) (hp : p.schema = .obj ms)
    (spot : Spot) :
    standard.violations (fuel + 1) scope p.schema spot =
      p.clauses.flatMap fun c =>
        Keyword.violations (standard.checking fuel scope ms) scope.path spot c.keyword := by
  rw [hp, Resources.violations_obj, hscope.dialect, keywords_eq hp, List.flatMap_map]

/-- A reference says what the piece says that it leads to. -/
theorem violations_reference (fuel : Nat) (hscope : scope.IsMeta)
    (h : p.target? = some (target, q)) :
    ∃ inner, inner.IsMeta ∧ ∀ spot, standard.violations (fuel + 1) scope p.schema spot =
      standard.violations fuel inner q.schema spot := by
  obtain ⟨hschema, hclauses⟩ := clauses_of_target h
  obtain ⟨inner, hresolve, hinner⟩ := resolve_of_target Resources.lookup_standard hscope h
  refine ⟨inner, hinner, fun spot => ?_⟩
  have hidle : Resources.isIdle scope .direct target q.schema = false := by
    have href : q.schema.get? ReferenceKind.direct.keyword = none := get?_ref_of_target h
    rw [Resources.isIdle, href]
    exact Bool.and_false _
  rw [violations_obj hscope hschema, hclauses, List.flatMap_singleton]
  simp only [Clause.keyword, Keyword.violations, Resources.checking, hresolve, hidle]
  rfl

/-! ## Pieces at the same value -/

theorem exists_of_mem_numbered {keyword : String} {ps : List Piece} {part : Keyword.Part}
    (h : part ∈ Keyword.numbered keyword (ps.map Piece.schema)) :
    ∃ p ∈ ps, part = ⟨part.path, p.schema⟩ := by
  obtain ⟨x, hx, rfl⟩ := List.mem_map.1 h
  obtain ⟨p, hp, heq⟩ := List.mem_map.1 (List.fst_mem_of_mem_zipIdx hx)
  exact ⟨p, hp, by rw [heq]⟩

/-- Pieces that do not tell two values apart. -/
def Equates (fuel : Nat) (s t : Spot) (p : Piece) : Prop :=
  ∀ scope : Scope, scope.IsMeta →
    (standard.violations fuel scope p.schema s = [] ↔
      standard.violations fuel scope p.schema t = [])

theorem Equates.check_iff {s t : Spot} (h : Equates fuel s t p) (hscope : scope.IsMeta)
    (hp : p ≠ top) (ms : Members) (path : List String) :
    (standard.checking fuel scope ms).check ⟨path, p.schema⟩ s = [] ↔
      (standard.checking fuel scope ms).check ⟨path, p.schema⟩ t = [] :=
  h _ (isMeta_intoAnyway hscope hp path)

theorem violations_allOf_iff {s t : Spot} {ps : List Piece} (hscope : scope.IsMeta) (ms : Members)
    (path : List String) (h : ∀ p ∈ ps, p ≠ top ∧ Equates fuel s t p) :
    Keyword.violations (standard.checking fuel scope ms) path s (Clause.allOf ps).keyword = [] ↔
      Keyword.violations (standard.checking fuel scope ms) path t
        (Clause.allOf ps).keyword = [] := by
  simp only [Clause.keyword, Keyword.violations, List.flatMap_eq_nil_iff]
  refine forall₂_congr fun part hpart => ?_
  obtain ⟨p, hp, heq⟩ := exists_of_mem_numbered hpart
  rw [heq]
  exact (h p hp).2.check_iff hscope (h p hp).1 ms _

theorem violations_anyOf_iff {s t : Spot} {ps : List Piece} (hscope : scope.IsMeta) (ms : Members)
    (path : List String) (h : ∀ p ∈ ps, p ≠ top ∧ Equates fuel s t p) :
    Keyword.violations (standard.checking fuel scope ms) path s (Clause.anyOf ps).keyword = [] ↔
      Keyword.violations (standard.checking fuel scope ms) path t
        (Clause.anyOf ps).keyword = [] := by
  simp only [Clause.keyword, Keyword.violations, Keyword.demand_eq_nil_iff, List.any_eq_true,
    Keyword.accepts_iff]
  refine exists_congr fun part => and_congr_right fun hpart => ?_
  obtain ⟨p, hp, heq⟩ := exists_of_mem_numbered hpart
  rw [heq]
  exact (h p hp).2.check_iff hscope (h p hp).1 ms _

/-! ## Texts -/

/-- What asks for a text accepts nothing else. -/
theorem isString_of_violations {v : Json} {path : List String} (hscope : scope.IsMeta)
    (hq : q = text ∨ q = typeName)
    (h : standard.violations (fuel + 2) scope q.schema ⟨v, path⟩ = []) : v.isString = true := by
  rcases hq with rfl | rfl
  · rw [violations_obj hscope rfl] at h
    simp only [clauses, List.flatMap_singleton, Clause.keyword, Keyword.violations,
      Keyword.demand_eq_nil_iff, List.any_cons, List.any_nil, Bool.or_false] at h
    cases v with
    | str s => rfl
    | _ => cases h
  · obtain ⟨inner, hinner, heq⟩ := violations_reference (fuel + 1) hscope
      (p := typeName) rfl
    rw [heq, violations_obj hinner rfl] at h
    simp only [clauses, List.flatMap_singleton, Clause.keyword, Keyword.violations,
      Keyword.demand_eq_nil_iff, List.any_eq_true] at h
    obtain ⟨o, ho, hsame⟩ := h
    obtain ⟨s, -, rfl⟩ := List.mem_map.1 ho
    cases v with
    | str s => rfl
    | _ => cases hsame

/-- What asks for an object or a list accepts no text. -/
theorem violations_str_ne (hscope : scope.IsMeta) (hq : q = top ∨ q = stringArray) (s : String)
    (path : List String) : standard.violations (fuel + 1) scope q.schema ⟨.str s, path⟩ ≠ [] := by
  rcases hq with rfl | rfl <;>
  · rw [violations_obj hscope rfl, clauses, List.flatMap_cons]
    exact List.append_ne_nil_of_left_ne_nil (List.cons_ne_nil _ _) _

/-- References to such pieces accept all texts or none. -/
theorem equates_str (hp : p = whole ∨ p = names) (s t : String) (path : List String) :
    Equates fuel ⟨.str s, path⟩ ⟨.str t, path⟩ p := by
  intro scope hscope
  have htarget : ∃ target q, p.target? = some (target, q) ∧ (q = top ∨ q = stringArray) := by
    rcases hp with rfl | rfl
    · exact ⟨_, _, rfl, Or.inl rfl⟩
    · exact ⟨_, _, rfl, Or.inr rfl⟩
  obtain ⟨target, q, htarget, hq⟩ := htarget
  cases fuel with
  | zero => simp only [Resources.violations]
  | succ fuel =>
    obtain ⟨inner, hinner, heq⟩ := violations_reference fuel hscope htarget
    rw [heq, heq]
    cases fuel with
    | zero => simp only [Resources.violations]
    | succ fuel =>
      exact iff_of_false (violations_str_ne hinner hq s path) (violations_str_ne hinner hq t path)

/-- Such pieces accept a reference by fragment alone if and only if they accept the one that it
becomes. -/
theorem equates_hash (hp : p = whole ∨ p = dependency ∨ p = uriReference) {s : String}
    (hash : s.startsWith "#" = true) (path : List String) :
    Equates fuel ⟨.str (documentUri ++ s), path⟩ ⟨.str s, path⟩ p := by
  rcases hp with rfl | rfl | rfl
  · exact equates_str (Or.inl rfl) _ _ path
  · intro scope hscope
    cases fuel with
    | zero => simp only [Resources.violations]
    | succ fuel =>
      rw [violations_obj hscope rfl, violations_obj hscope rfl, clauses, List.flatMap_singleton,
        List.flatMap_singleton]
      refine violations_anyOf_iff hscope _ _ fun q hq => ?_
      simp only [List.mem_cons, List.not_mem_nil, or_false] at hq
      rcases hq with rfl | rfl
      · exact ⟨by decide, equates_str (Or.inl rfl) _ _ path⟩
      · exact ⟨by decide, equates_str (Or.inr rfl) _ _ path⟩
  · intro scope hscope
    cases fuel with
    | zero => simp only [Resources.violations]
    | succ fuel =>
      rw [violations_obj hscope rfl, violations_obj hscope rfl]
      have hformat : Format.accepts .uriReference (documentUri ++ s) =
          Format.accepts .uriReference s := Uri.isSome_reference_hash hash
      simp only [clauses, List.flatMap_cons, List.flatMap_nil, Clause.keyword, Keyword.violations,
        List.append_eq_nil_iff, Keyword.demand_eq_nil_iff, Keyword.isTextSuch, hformat,
        Keyword.hasType, List.any_cons, List.any_nil]

/-! ## Values before and after -/

theorem equates_member (hp : p = whole ∨ p = dependency ∨ p = uriReference) {v : Json}
    (path : List String) (h : Equates fuel ⟨rebase v, path⟩ ⟨v, path⟩ p) (name : String) :
    Equates fuel ⟨rebaseMember name v, path⟩ ⟨v, path⟩ p := by
  have hrebases := rebases_member name v
  generalize rebaseMember name v = w at hrebases
  cases hrebases with
  | value => exact h
  | text hash => exact equates_hash hp hash path

/-- Smaller values are not told apart from what becomes of them. -/
def Overlooks (fuel : Nat) : Prop :=
  ∀ (p : Piece) (v : Json) (path : List String), 4 * v.depth + p.need ≤ fuel →
    Equates fuel ⟨rebase v, path⟩ ⟨v, path⟩ p

variable {v : Json} {path steps : List String} {ms : Members} {c : Clause}

/-- Inside a value that is seen with one more step there are enough for all pieces. -/
theorem Overlooks.inside (h : Overlooks fuel) {w : Json} (hfuel : 4 * v.depth + p.need ≤ fuel + 1)
    (hw : w.depth < v.depth) (q : Piece) (path : List String) :
    Equates fuel ⟨rebase w, path⟩ ⟨w, path⟩ q :=
  h q w path (by have := q.need_le; have := p.one_le_need; omega)

theorem violations_items_iff (h : Overlooks fuel) (hfuel : 4 * v.depth + p.need ≤ fuel + 1)
    (hscope : scope.IsMeta) (hq : q ≠ top) :
    Keyword.violations (standard.checking fuel scope ms) steps ⟨rebase v, path⟩
        (Clause.items q).keyword = [] ↔
      Keyword.violations (standard.checking fuel scope ms) steps ⟨v, path⟩
        (Clause.items q).keyword = [] := by
  simp only [Clause.keyword, Keyword.violations, List.drop_zero, Keyword.itemSpots_rebase,
    List.flatMap_map, List.flatMap_eq_nil_iff]
  refine forall₂_congr fun t ht => ?_
  exact (h.inside hfuel (Keyword.depth_lt_of_mem_itemSpots ht) q t.path).check_iff hscope hq ms _

theorem violations_properties_iff (h : Overlooks fuel) (hfuel : 4 * v.depth + p.need ≤ fuel + 1)
    (hscope : scope.IsMeta) :
    Keyword.violations (standard.checking fuel scope ms) steps ⟨rebase v, path⟩
        Clause.properties.keyword = [] ↔
      Keyword.violations (standard.checking fuel scope ms) steps ⟨v, path⟩
        Clause.properties.keyword = [] := by
  have htop : ∀ e ∈ properties, e.2 ≠ top := by decide
  have href : ∀ e ∈ properties, e.1 = "$ref" → e.2 = uriReference := by decide
  simp only [Clause.keyword, Keyword.violations, List.flatMap_map, List.flatMap_eq_nil_iff]
  refine forall₂_congr fun e he => ?_
  rw [Keyword.membersOf_rebase, rebaseMembers_eq, Members.get?_map]
  cases hw : Members.get? (Keyword.membersOf ⟨v, path⟩) e.1 with
  | none => exact Iff.rfl
  | some w =>
    have hinside := h.inside hfuel (Keyword.depth_lt_of_mem_membersOf (Members.mem_of_get? hw)) e.2
      (path ++ [e.1])
    have hequates : Equates fuel ⟨rebaseMember e.1 w, path ++ [e.1]⟩ ⟨w, path ++ [e.1]⟩ e.2 := by
      by_cases hk : e.1 = "$ref"
      · exact equates_member (Or.inr (Or.inr (href e he hk))) _ hinside e.1
      · rw [rebaseMember_keyword hk]
        exact hinside
    exact hequates.check_iff hscope (htop e he) ms _

theorem violations_members_eq (inner : Inner) (s : Json) (spot : Spot) :
    Keyword.violations inner steps spot (.members [] [] (some s)) =
      (Keyword.membersOf spot).flatMap fun m =>
        inner.check ⟨["additionalProperties"], s⟩ (spot.member m.1 m.2) := by
  simp [Keyword.violations, Keyword.memberViolations, Keyword.namedViolations,
    Keyword.patternViolations, Keyword.matching, Keyword.isCovered, Keyword.demand, Members.get?]

theorem violations_members_iff (h : Overlooks fuel) (hfuel : 4 * v.depth + p.need ≤ fuel + 1)
    (hscope : scope.IsMeta) (hq : q = whole ∨ q = dependency) :
    Keyword.violations (standard.checking fuel scope ms) steps ⟨rebase v, path⟩
        (Clause.members q).keyword = [] ↔
      Keyword.violations (standard.checking fuel scope ms) steps ⟨v, path⟩
        (Clause.members q).keyword = [] := by
  have htop : q ≠ top := by rcases hq with rfl | rfl <;> decide
  rw [Clause.keyword, violations_members_eq, violations_members_eq, Keyword.membersOf_rebase,
    rebaseMembers_eq, List.flatMap_map, List.flatMap_eq_nil_iff, List.flatMap_eq_nil_iff]
  refine forall₂_congr fun m hm => ?_
  have hinside := h.inside hfuel (Keyword.depth_lt_of_mem_membersOf hm) q (path ++ [m.1])
  exact (equates_member (hq.imp_right Or.inl) _ hinside m.1).check_iff hscope htop ms _

theorem violations_names_iff (inner : Inner) (s : Json) :
    Keyword.violations inner steps ⟨rebase v, path⟩ (.propertyNames s) = [] ↔
      Keyword.violations inner steps ⟨v, path⟩ (.propertyNames s) = [] := by
  simp only [Keyword.violations, Keyword.nameViolations, Keyword.membersOf_rebase,
    rebaseMembers_eq]
  split
  · simp only [Keyword.demand_eq_nil_iff, List.isEmpty_map]
  · simp only [List.flatMap_map, List.flatMap_eq_nil_iff, List.map_eq_nil_iff]

/-- Every clause but one overlooks what becomes of a value. -/
theorem violations_clause_iff (h : Overlooks fuel) (hfuel : 4 * v.depth + p.need ≤ fuel + 1)
    (hscope : scope.IsMeta) (hc : p.allows c = true) (hreference : ∀ target, c ≠ .reference target)
    (hdistinct : c ≠ .distinctItems) :
    Keyword.violations (standard.checking fuel scope ms) steps ⟨rebase v, path⟩ c.keyword = [] ↔
      Keyword.violations (standard.checking fuel scope ms) steps ⟨v, path⟩ c.keyword = [] := by
  have hless : ∀ {qs : List Piece}, (qs.all fun q => q != top && q.need < p.need) = true →
      ∀ q ∈ qs, q ≠ top ∧ Equates fuel ⟨rebase v, path⟩ ⟨v, path⟩ q := by
    intro qs hqs q hq
    obtain ⟨htop, hneed⟩ := Bool.and_eq_true_iff.1 (List.all_eq_true.1 hqs q hq)
    exact ⟨by simpa using htop, h q v path (by have := of_decide_eq_true hneed; omega)⟩
  cases c with
  | plain k => exact Keyword.violations_plain hc v
  | reference target => exact absurd rfl (hreference target)
  | items q => exact violations_items_iff h hfuel hscope (by simpa [allows] using hc)
  | distinctItems => exact absurd rfl hdistinct
  | properties => exact violations_properties_iff h hfuel hscope
  | members q => exact violations_members_iff h hfuel hscope (by simpa [allows] using hc)
  | names s => exact violations_names_iff _ s
  | allOf qs => exact violations_allOf_iff hscope ms steps (hless hc)
  | anyOf qs => exact violations_anyOf_iff hscope ms steps (hless hc)

/-! ## Lists without repetition -/

theorem rebase_arr_of_texts {xs : List Json} (h : ∀ x ∈ xs, x.isString = true) :
    rebase (.arr xs) = .arr xs := by
  have hsame : ∀ x ∈ xs, rebase x = x := by
    intro x hx
    have hx := h x hx
    cases x with
    | str s => rfl
    | _ => cases hx
  rw [rebase, rebaseItems_eq, List.map_congr_left hsame, List.map_id']

/-- Where all items have to be texts, nothing becomes of them. -/
theorem violations_distinct_iff (hfuel : 4 * v.depth + p.need ≤ fuel + 1) (hscope : scope.IsMeta)
    (hq : q = text ∨ q = typeName)
    (hitems : Keyword.violations (standard.checking fuel scope ms) steps ⟨v, path⟩
      (Clause.items q).keyword = []) :
    Keyword.violations (standard.checking fuel scope ms) steps ⟨rebase v, path⟩ .uniqueItems = [] ↔
      Keyword.violations (standard.checking fuel scope ms) steps ⟨v, path⟩ .uniqueItems = [] := by
  cases v with
  | arr xs =>
    have htop : q ≠ top := by rcases hq with rfl | rfl <;> decide
    obtain ⟨fuel, rfl⟩ : ∃ n, fuel = n + 2 := by
      have hdepth : (Json.arr xs).depth = Json.depthItems xs + 1 := rfl
      have := p.one_le_need
      exact ⟨fuel - 2, by omega⟩
    rw [rebase_arr_of_texts fun x hx => ?_]
    obtain ⟨i, hi⟩ := List.mem_iff_getElem?.1 hx
    simp only [Clause.keyword, Keyword.violations, List.drop_zero,
      List.flatMap_eq_nil_iff] at hitems
    have hspot : (Spot.mk (.arr xs) path).item i x ∈ Keyword.itemSpots ⟨.arr xs, path⟩ :=
      List.mem_map.2 ⟨(x, i), List.mk_mem_zipIdx_iff_getElem?.2 hi, rfl⟩
    exact isString_of_violations (isMeta_intoAnyway hscope htop _) hq (hitems _ hspot)
  | _ => exact Iff.rfl

theorem exists_items {p : Piece} (h : p.allows .distinctItems = true) :
    ∃ q, (q = text ∨ q = typeName) ∧ Clause.items q ∈ p.clauses := by
  have hp : p = stringArray ∨ p = typeList := by simpa [allows] using h
  rcases hp with rfl | rfl
  · exact ⟨text, Or.inl rfl, by simp [clauses]⟩
  · exact ⟨typeName, Or.inr rfl, by simp [clauses]⟩

/-! ## All pieces -/

/-- One step: if smaller values are not told apart with the steps that are left, no clause of a
piece tells a value apart with one more. -/
theorem Overlooks.clauses_iff (h : Overlooks fuel) (hfuel : 4 * v.depth + p.need ≤ fuel + 1)
    (hscope : scope.IsMeta) (hplain : p.target? = none) :
    (∀ c ∈ p.clauses, Keyword.violations (standard.checking fuel scope ms) steps ⟨rebase v, path⟩
        c.keyword = []) ↔
      ∀ c ∈ p.clauses, Keyword.violations (standard.checking fuel scope ms) steps ⟨v, path⟩
        c.keyword = [] := by
  have hclause : ∀ c ∈ p.clauses, c ≠ .distinctItems →
      (Keyword.violations (standard.checking fuel scope ms) steps ⟨rebase v, path⟩ c.keyword = [] ↔
        Keyword.violations (standard.checking fuel scope ms) steps ⟨v, path⟩ c.keyword = []) := by
    intro c hc hdistinct
    refine violations_clause_iff h hfuel hscope (allows_of_mem hc) (fun target heq => ?_) hdistinct
    have hallows := allows_of_mem hc
    rw [heq, allows, hplain] at hallows
    cases hallows
  constructor
  all_goals
    intro hall c hc
    by_cases hdistinct : c = .distinctItems
    · subst hdistinct
      obtain ⟨q, hq, hmem⟩ := exists_items (allows_of_mem hc)
      have hitems := hclause _ hmem (by simp)
      first
        | exact (violations_distinct_iff hfuel hscope hq (hitems.1 (hall _ hmem))).1 (hall _ hc)
        | exact (violations_distinct_iff hfuel hscope hq (hall _ hmem)).2 (hall _ hc)
    · first
        | exact (hclause c hc hdistinct).1 (hall c hc)
        | exact (hclause c hc hdistinct).2 (hall c hc)

/-- With steps enough no piece tells a value apart from what becomes of it. -/
theorem overlooks (fuel : Nat) : Overlooks fuel := by
  induction fuel with
  | zero =>
    intro p v path hfuel
    have := p.one_le_need
    omega
  | succ fuel ih =>
    intro p v path hfuel scope hscope
    cases htarget : p.target? with
    | some x =>
      obtain ⟨target, q⟩ := x
      obtain ⟨inner, hinner, heq⟩ := violations_reference fuel hscope htarget
      have := need_lt_of_target htarget
      rw [heq, heq]
      exact ih q v path (by omega) inner hinner
    | none =>
      cases hp : p.schema with
      | obj ms =>
        rw [← hp, violations_obj hscope hp, violations_obj hscope hp, List.flatMap_eq_nil_iff,
          List.flatMap_eq_nil_iff]
        exact ih.clauses_iff hfuel hscope htarget
      | bool b => cases b <;> simp [Resources.violations]
      | _ => simp only [Resources.violations]

end Metaschema.Piece

/-! ## The result -/

namespace Resources

theorem le_foldl_count (es : List (String × Resource)) (n : Nat) :
    n ≤ es.foldl (fun n e => n + e.2.schema.count) n := by
  induction es generalizing n with
  | nil => exact Nat.le_refl n
  | cons e es ih => exact (Nat.le_add_right n _).trans (ih _)

theorem count_le_of_mem {r : Resources} {e : String × Resource} (h : e ∈ r.entries) :
    e.2.schema.count ≤ r.count := by
  have hfold : ∀ (es : List (String × Resource)) (n : Nat), e ∈ es →
      e.2.schema.count ≤ es.foldl (fun n e => n + e.2.schema.count) n := by
    intro es
    induction es with
    | nil => nofun
    | cons e' es ih =>
      intro n he
      rcases List.mem_cons.1 he with rfl | he
      · exact (Nat.le_add_left _ n).trans (le_foldl_count es _)
      · exact ih _ he
  exact hfold _ 0 h

theorem two_le_count_standard : 2 ≤ standard.count := by
  have hcount : 2 ≤ CompiledSchema.metaResource.schema.count := by decide +kernel
  exact hcount.trans (count_le_of_mem standard_isStandard.present)

/-- There are enough steps for the schema of schemas. -/
theorem le_budget_standard (v : Json) : 4 * v.depth + 4 ≤ standard.budget v := by
  have hcount := two_le_count_standard
  rw [budget]
  generalize standard.count = n at hcount
  calc 4 * v.depth + 4 = (v.depth + 1) * 4 := by omega
    _ ≤ (v.depth + 1) * (n + 2) := Nat.mul_le_mul_left _ (by omega)

end Resources

namespace CompiledSchema

open Resources (standard)
open Metaschema (Piece)

theorem metaViolation?_eq_none_iff {v : Json} (hv : ∀ b, v ≠ .bool b) :
    metaViolation? v = none ↔
      standard.violations (standard.budget v) metaScope Piece.top.schema ⟨v, []⟩ = [] := by
  unfold metaViolation?
  split
  · exact absurd rfl (hv _)
  · exact List.head?_eq_none_iff

/-- The schema of schemas accepts what becomes of a schema if and only if it accepts the schema. -/
theorem metaViolation?_rebase (v : Json) :
    metaViolation? (rebase v) = none ↔ metaViolation? v = none := by
  by_cases hv : ∃ b, v = .bool b
  · obtain ⟨b, rfl⟩ := hv
    exact Iff.rfl
  · have hv : ∀ b, v ≠ .bool b := fun b heq => hv ⟨b, heq⟩
    have hrebase : ∀ b, rebase v ≠ .bool b := by
      intro b
      cases v with
      | bool b => exact absurd rfl (hv b)
      | _ => simp [rebase]
    have hbudget : standard.budget (rebase v) = standard.budget v := by
      rw [Resources.budget, Resources.budget, depth_rebase]
    have hfuel := Resources.le_budget_standard v
    rw [metaViolation?_eq_none_iff hv, metaViolation?_eq_none_iff hrebase, hbudget]
    exact Piece.overlooks _ .top v [] (Nat.le_trans (Nat.add_le_add_left (by decide) _) hfuel)
      metaScope Piece.isMeta_metaScope

/-- The schema of schemas refuses a schema that names a fragment as its draft. -/
theorem isQuiet_of_metaViolation? {v : Json} (h : metaViolation? v = none) : IsQuiet v := by
  intro s hs
  rw [← Bool.not_eq_true]
  intro hash
  cases v with
  | obj ms =>
    obtain ⟨w, hw, hstr⟩ := Option.bind_eq_some_iff.1 hs
    obtain ⟨fuel, hfuel⟩ : ∃ n, standard.budget (.obj ms) = n + 2 :=
      ⟨standard.budget (.obj ms) - 2, by have := Resources.le_budget_standard (.obj ms); omega⟩
    rw [metaViolation?_eq_none_iff (by simp), hfuel,
      Piece.violations_obj Piece.isMeta_metaScope rfl, List.flatMap_eq_nil_iff] at h
    have hproperties := h .properties (by simp [Piece.clauses])
    simp only [Metaschema.Clause.keyword, Keyword.violations, List.flatMap_map,
      List.flatMap_eq_nil_iff] at hproperties
    have hschema := hproperties ("$schema", .uri) (by decide)
    have hmember : Members.get? (Keyword.membersOf ⟨.obj ms, []⟩) "$schema" = some w := hw
    cases w with
    | str t =>
      obtain rfl : t = s := Option.some.inj hstr
      simp only [hmember] at hschema
      have htext : standard.violations (fuel + 1)
          (metaScope.intoAnyway ⟨["properties", "$schema"], Piece.uri.schema⟩) Piece.uri.schema
          ⟨.str t, ["$schema"]⟩ = [] := hschema
      rw [Piece.violations_obj (Piece.isMeta_intoAnyway Piece.isMeta_metaScope (by decide) _) rfl,
        List.flatMap_eq_nil_iff] at htext
      have hformat := htext (.plain (.format "uri" .uri)) (by simp [Piece.clauses])
      simp only [Metaschema.Clause.keyword, Keyword.violations,
        Keyword.demand_eq_nil_iff] at hformat
      have habsent : Format.accepts .uri t = false :=
        congrArg Option.isSome (Uri.parse_absolute_hash hash _)
      rw [Keyword.isTextSuch, habsent] at hformat
      cases hformat
    | _ => cases hstr
  | _ => cases hs

end CompiledSchema
end MessageContract
