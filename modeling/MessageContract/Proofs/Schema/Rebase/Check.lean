import MessageContract.Proofs.Schema.Rebase.Keyword

/-!
# Checks of rebased schemas

If the schemas in a keyword accept the same before and after they are rebased (`Keyword.Mirrors`),
and the data in it stay as they are, so does the keyword (`Keyword.violations_rebased`), and it
looks at the same members and items (`Keyword.marks_rebased`).
-/

namespace MessageContract.Keyword

variable {inner inner' : Inner} {k : Keyword} {spot : Spot} {path : List String}

/-- The keyword is no reference, and its data stay when it is rebased. -/
def IsSettled : Keyword → Prop
  | reference _ _ => False
  | enum options => options.map rebase = options
  | constant c => rebase c = c
  | _ => True

/-- What is no reference before it is rebased is none after. -/
theorem ne_reference_of_reads {x y : Read} (h : Agree Reads x y)
    (hx : ∀ kind target, x ≠ .ok (some (.reference kind target))) {kind : ReferenceKind}
    {target : String} : y ≠ .ok (some (.reference kind target)) := by
  rintro rfl
  cases h with
  | @ok o _ h =>
    obtain ⟨k, rfl, hk⟩ := Option.map_eq_some_iff.1 h.symm
    cases k with
    | reference kind target => exact hx _ _ rfl
    | _ => cases hk

/-- The schemas in a keyword accept the same before and after they are rebased. -/
structure Mirrors (inner inner' : Inner) (k : Keyword) : Prop where
  accepts : ∀ p ∈ k.parts, ∀ p', p.Rebases p' → ∀ s, accepts inner' s p' = accepts inner s p
  marked : inner'.marked = inner.marked

theorem accepts_iff {s : Spot} {p : Part} :
    Keyword.accepts inner s p = true ↔ inner.check p s = [] :=
  List.isEmpty_iff

theorem demand_eq_nil_iff {b : Bool} {cause : Cause} {keyword : String} :
    demand b cause path keyword spot = [] ↔ b = true := by
  rw [demand]
  cases b <;> simp

theorem part_rebase (q : List String) (v : Json) : Part.Rebases ⟨q, v⟩ ⟨q, rebase v⟩ :=
  ⟨rfl, .value v⟩

theorem part_member (q : List String) (name : String) (v : Json) :
    Part.Rebases ⟨q, v⟩ ⟨q, rebaseMember name v⟩ :=
  ⟨rfl, rebases_member name v⟩

namespace Mirrors

theorem check_iff (h : Mirrors inner inner' k) {p p' : Part} (hp : p ∈ k.parts)
    (hrebases : p.Rebases p') (s : Spot) : inner'.check p' s = [] ↔ inner.check p s = [] := by
  rw [← accepts_iff, ← accepts_iff, h.accepts p hp p' hrebases s]

theorem accepts_rebase (h : Mirrors inner inner' k) {q : List String} {v : Json}
    (hp : ⟨q, v⟩ ∈ k.parts) (s : Spot) :
    Keyword.accepts inner' s ⟨q, rebase v⟩ = Keyword.accepts inner s ⟨q, v⟩ :=
  h.accepts _ hp _ (part_rebase q v) s

theorem check_rebase (h : Mirrors inner inner' k) {q : List String} {v : Json}
    (hp : ⟨q, v⟩ ∈ k.parts) (s : Spot) :
    inner'.check ⟨q, rebase v⟩ s = [] ↔ inner.check ⟨q, v⟩ s = [] :=
  h.check_iff hp (part_rebase q v) s

theorem check_member (h : Mirrors inner inner' k) {q : List String} {name : String} {v : Json}
    (hp : ⟨q, v⟩ ∈ k.parts) (s : Spot) :
    inner'.check ⟨q, rebaseMember name v⟩ s = [] ↔ inner.check ⟨q, v⟩ s = [] :=
  h.check_iff hp (part_member q name v) s

theorem acceptedItems_eq (h : Mirrors inner inner' k) {q : List String} {v : Json}
    (hp : ⟨q, v⟩ ∈ k.parts) (s : Spot) :
    acceptedItems inner' ⟨q, rebase v⟩ s = acceptedItems inner ⟨q, v⟩ s := by
  rw [acceptedItems, acceptedItems]
  simp only [h.accepts_rebase hp]

end Mirrors

/-- Of schemas that accept the same, the same number accepts. -/
theorem filter_accepts (h : Mirrors inner inner' k) {ps ps' : List Part}
    (hps : List.Forall₂ Part.Rebases ps ps') (hin : ∀ p ∈ ps, p ∈ k.parts) (s : Spot) :
    (ps'.filter (accepts inner' s)).length = (ps.filter (accepts inner s)).length := by
  induction hps with
  | nil => rfl
  | @cons p p' ps ps' hp _ ih =>
    rw [List.forall_mem_cons] at hin
    rw [List.filter_cons, List.filter_cons, h.accepts p hin.1 p' hp s]
    split
    · rw [List.length_cons, List.length_cons, ih hin.2]
    · exact ih hin.2

theorem any_accepts (h : Mirrors inner inner' k) {ps ps' : List Part}
    (hps : List.Forall₂ Part.Rebases ps ps') (hin : ∀ p ∈ ps, p ∈ k.parts) (s : Spot) :
    ps'.any (accepts inner' s) = ps.any (accepts inner s) := by
  induction hps with
  | nil => rfl
  | @cons p p' ps ps' hp _ ih =>
    rw [List.forall_mem_cons] at hin
    rw [List.any_cons, List.any_cons, h.accepts p hin.1 p' hp s, ih hin.2]

theorem flatMap_check (h : Mirrors inner inner' k) {ps ps' : List Part}
    (hps : List.Forall₂ Part.Rebases ps ps') (hin : ∀ p ∈ ps, p ∈ k.parts) (s : Spot) :
    ps'.flatMap (inner'.check · s) = [] ↔ ps.flatMap (inner.check · s) = [] := by
  induction hps with
  | nil => exact Iff.rfl
  | @cons p p' ps ps' hp _ ih =>
    rw [List.forall_mem_cons] at hin
    rw [List.flatMap_cons, List.flatMap_cons, List.append_eq_nil_iff, List.append_eq_nil_iff,
      h.check_iff hin.1 hp, ih hin.2]

/-! ## Members -/

theorem matching_rebased (ps : List (Pattern × Json)) (name : String) :
    matching (ps.map fun p => (p.1, rebaseMember p.1.text p.2)) name =
      (matching ps name).map fun p => (p.1, rebaseMember p.1.text p.2) := by
  rw [matching, matching, List.filter_map]
  rfl

theorem isCovered_rebased (named : Members) (ps : List (Pattern × Json)) (name : String) :
    isCovered (rebaseMembers named) (ps.map fun p => (p.1, rebaseMember p.1.text p.2)) name =
      isCovered named ps name := by
  rw [isCovered, isCovered, matching_rebased, rebaseMembers_eq, Members.get?_map,
    Option.isSome_map, List.isEmpty_map]

theorem memberViolations_rebased {named : Members} {ps : List (Pattern × Json)}
    {others : Option Json} (h : Mirrors inner inner' (members named ps others)) (name : String)
    (v : Json) :
    memberViolations inner' (rebaseMembers named)
        (ps.map fun p => (p.1, rebaseMember p.1.text p.2)) (others.map rebase) spot name v = [] ↔
      memberViolations inner named ps others spot name v = [] := by
  have hparts : (members named ps others).parts = patternParts ps ++
      namedParts "properties" named ++ optional "additionalProperties" others := rfl
  have hnamed : namedViolations inner' (rebaseMembers named) name (spot.member name v) = [] ↔
      namedViolations inner named name (spot.member name v) = [] := by
    rw [namedViolations, namedViolations, rebaseMembers_eq, Members.get?_map]
    cases hs : Members.get? named name with
    | none => exact Iff.rfl
    | some s =>
      refine h.check_member ?_ _
      rw [hparts]
      exact List.mem_append_left _ (List.mem_append_right _
        (List.mem_map.2 ⟨_, Members.mem_of_get? hs, rfl⟩))
  have hpatterns : patternViolations inner' ((matching ps name).map fun p =>
        (p.1, rebaseMember p.1.text p.2)) (spot.member name v) = [] ↔
      patternViolations inner (matching ps name) (spot.member name v) = [] := by
    rw [patternViolations, patternViolations, List.flatMap_map, List.flatMap_eq_nil_iff,
      List.flatMap_eq_nil_iff]
    refine forall₂_congr fun p hp => h.check_member ?_ _
    rw [hparts]
    exact List.mem_append_left _ (List.mem_append_left _
      (List.mem_map.2 ⟨p, (List.mem_filter.1 hp).1, rfl⟩))
  simp only [memberViolations, List.append_eq_nil_iff, matching_rebased, hnamed, hpatterns,
    isCovered_rebased]
  refine and_congr_right fun _ => ?_
  cases others with
  | none => exact Iff.rfl
  | some s =>
    simp only [Option.map_some]
    split
    · exact Iff.rfl
    · refine h.check_rebase ?_ _
      rw [hparts]
      exact List.mem_append_right _ (by simp [optional])

/-! ## Keywords -/

theorem nameViolations_rebased {s : Json} (h : Mirrors inner inner' (propertyNames s)) :
    nameViolations inner' path (rebase s) spot = [] ↔ nameViolations inner path s spot = [] := by
  have hmem : (⟨["propertyNames"], s⟩ : Part) ∈ (propertyNames s).parts := by simp [parts]
  have hnames : (membersOf spot).flatMap (fun m =>
        (inner'.check ⟨["propertyNames"], rebase s⟩ ⟨.str m.1, spot.path⟩).map fun v =>
          (⟨.propertyName m.1 v.cause, spot, v.schemaPath⟩ : Violation)) = [] ↔
      (membersOf spot).flatMap (fun m =>
        (inner.check ⟨["propertyNames"], s⟩ ⟨.str m.1, spot.path⟩).map fun v =>
          (⟨.propertyName m.1 v.cause, spot, v.schemaPath⟩ : Violation)) = [] := by
    simp only [List.flatMap_eq_nil_iff, List.map_eq_nil_iff]
    exact forall₂_congr fun m _ => h.check_rebase hmem _
  cases s with
  | bool b =>
    cases b
    · exact Iff.rfl
    · exact hnames
  | _ => exact hnames

theorem dependencyViolations_rebased {keyword name : String}
    {entries : List (String × Dependency)} {x : Dependency}
    (h : Mirrors inner inner' (dependencies keyword entries)) (hx : (name, x) ∈ entries) :
    dependencyViolations inner' path keyword spot name (x.rebased name) = [] ↔
      dependencyViolations inner path keyword spot name x = [] := by
  cases x with
  | names ns => exact Iff.rfl
  | schema s =>
    have hmem : (⟨[keyword, name], s⟩ : Part) ∈ (dependencies keyword entries).parts :=
      List.mem_filterMap.2 ⟨(name, .schema s), hx, rfl⟩
    exact h.check_member hmem spot

/-- A keyword finds fault before it is rebased if and only if it does so after. -/
theorem violations_rebased (h : Mirrors inner inner' k) (hsettled : k.IsSettled) :
    violations inner' path spot k.rebased = [] ↔ violations inner path spot k = [] := by
  cases k with
  | reference kind target => exact hsettled.elim
  | enum options =>
    rw [rebased, show options.map rebase = options from hsettled]
    rfl
  | constant c =>
    rw [rebased, show rebase c = c from hsettled]
    rfl
  | items s first =>
    simp only [rebased, violations, List.flatMap_eq_nil_iff]
    exact forall₂_congr fun t _ => h.check_rebase (by simp [parts]) t
  | tuple keyword ss =>
    simp only [rebased, violations, List.zipIdx_map, List.zip_map_left, List.flatMap_map,
      List.flatMap_eq_nil_iff]
    refine forall₂_congr fun t ht => ?_
    have hmem : (⟨[keyword, toString t.1.2], t.1.1⟩ : Part) ∈ (tuple keyword ss).parts :=
      List.mem_map.2 ⟨t.1, (List.of_mem_zip ht).1, rfl⟩
    exact h.check_rebase hmem t.2
  | additionalItems allowed s =>
    cases s with
    | none => exact Iff.rfl
    | some s =>
      simp only [rebased, Option.map_some, violations, List.flatMap_eq_nil_iff]
      exact forall₂_congr fun t _ => h.check_rebase (by simp [parts, optional]) t
  | contains s least most =>
    have hmem : (⟨["contains"], s⟩ : Part) ∈ (contains s least most).parts := by simp [parts]
    rw [rebased, violations, violations]
    unfold containsViolations
    rw [h.acceptedItems_eq hmem]
  | properties named =>
    simp only [rebased, rebaseMembers_eq, violations, List.flatMap_map, List.flatMap_eq_nil_iff]
    refine forall₂_congr fun m hm => ?_
    split
    · exact h.check_member (List.mem_map.2 ⟨m, hm, rfl⟩) _
    · exact Iff.rfl
  | patternProperties ps =>
    simp only [rebased, violations, List.flatMap_map, List.flatMap_eq_nil_iff]
    refine forall₂_congr fun p hp => forall₂_congr fun m _ => ?_
    exact h.check_member (List.mem_map.2 ⟨p, hp, rfl⟩) _
  | members named ps others =>
    simp only [rebased, violations, List.append_eq_nil_iff, List.flatMap_eq_nil_iff,
      demand_eq_nil_iff, isCovered_rebased, Option.isSome_map]
    exact and_congr_left fun _ => forall₂_congr fun m _ => memberViolations_rebased h m.1 m.2
  | propertyNames s => exact nameViolations_rebased h
  | dependencies keyword entries =>
    simp only [rebased, violations, List.flatMap_map, List.flatMap_eq_nil_iff]
    refine forall₂_congr fun e he => ?_
    split
    · exact dependencyViolations_rebased h he
    · exact Iff.rfl
  | allOf ss => exact flatMap_check h (forall₂_parts (.allOf ss)) (fun _ hp => hp) spot
  | anyOf ss =>
    simp only [rebased, violations, demand_eq_nil_iff]
    rw [← any_accepts h (forall₂_parts (.anyOf ss)) (fun _ hp => hp) spot]
    rfl
  | oneOf ss =>
    have hlength := filter_accepts h (forall₂_parts (.oneOf ss)) (fun _ hp => hp) spot
    simp only [rebased] at hlength
    simp only [rebased, violations, hlength]
  | not s =>
    have hmem : (⟨["not"], s⟩ : Part) ∈ (Keyword.not s).parts := by simp [parts]
    simp only [rebased, violations, demand_eq_nil_iff, h.accepts_rebase hmem]
  | conditional s yes no =>
    have hmem : (⟨["if"], s⟩ : Part) ∈ (conditional s yes no).parts := by simp [parts]
    simp only [rebased, violations, h.accepts_rebase hmem]
    split
    · cases yes with
      | none => exact Iff.rfl
      | some y => exact h.check_rebase (q := ["then"]) (v := y) (by simp [parts, optional]) spot
    · cases no with
      | none => exact Iff.rfl
      | some y => exact h.check_rebase (q := ["else"]) (v := y) (by simp [parts, optional]) spot
  | unevaluatedItems s =>
    have hmem : (⟨["unevaluatedItems"], s⟩ : Part) ∈ (unevaluatedItems s).parts := by simp [parts]
    simp only [rebased, violations, unevaluatedItemViolations, h.marked, h.accepts_rebase hmem]
  | unevaluatedProperties s =>
    have hmem : (⟨["unevaluatedProperties"], s⟩ : Part) ∈ (unevaluatedProperties s).parts := by
      simp [parts]
    simp only [rebased, violations, unevaluatedMemberViolations, h.marked, h.accepts_rebase hmem]
  | _ => exact Iff.rfl

/-! ## Marks -/

variable {traces traces' : Traces}

/-- The schemas in a keyword look at the same before and after they are rebased. -/
def Traces.Mirrors (traces traces' : Traces) (k : Keyword) : Prop :=
  ∀ p ∈ k.parts, ∀ p', p.Rebases p' → ∀ s, traces'.inside p' s = traces.inside p s

theorem namesSuch_congr {p q : String → Spot → Bool}
    (h : ∀ m ∈ membersOf spot, p m.1 (spot.member m.1 m.2) = q m.1 (spot.member m.1 m.2)) :
    namesSuch spot p = namesSuch spot q := by
  rw [namesSuch, namesSuch, List.filter_congr h]

theorem isNamed_rebased (h : Mirrors inner inner' k) {named : Members}
    (hin : ∀ p ∈ namedParts "properties" named, p ∈ k.parts) (name : String) (member : Spot) :
    isNamed inner' (rebaseMembers named) name member = isNamed inner named name member := by
  rw [isNamed, isNamed, rebaseMembers_eq, Members.get?_map]
  cases hs : Members.get? named name with
  | none => rfl
  | some s =>
    exact h.accepts _ (hin _ (List.mem_map.2 ⟨_, Members.mem_of_get? hs, rfl⟩)) _
      (part_member _ name s) member

theorem isMatched_rebased (h : Mirrors inner inner' k) {ps : List (Pattern × Json)}
    (hin : ∀ p ∈ patternParts ps, p ∈ k.parts) (name : String) (member : Spot) :
    isMatched inner' (ps.map fun p => (p.1, rebaseMember p.1.text p.2)) name member =
      isMatched inner ps name member := by
  have hparts : ∀ (inner : Inner) ps, isMatched inner ps name member =
      (patternParts (matching ps name)).any (accepts inner member) := by
    intro inner ps
    rw [isMatched, patternParts, List.any_map]
    rfl
  have hsub : patternParts (matching ps name) ⊆ patternParts ps :=
    List.map_subset _ List.filter_sublist.subset
  rw [hparts, hparts, matching_rebased]
  exact any_accepts h (forall₂_patternParts _) (fun p hp => hin p (hsub hp)) member

theorem acceptedMarks_rebased (h : Mirrors inner inner' k) (ht : traces.Mirrors traces' k)
    {ps ps' : List Part} (hps : List.Forall₂ Part.Rebases ps ps') (hin : ∀ p ∈ ps, p ∈ k.parts) :
    acceptedMarks inner' traces' ps' spot = acceptedMarks inner traces ps spot := by
  rw [acceptedMarks, acceptedMarks]
  congr 1
  induction hps with
  | nil => rfl
  | @cons p p' ps ps' hp _ ih =>
    rw [List.forall_mem_cons] at hin
    rw [List.filter_cons, List.filter_cons, h.accepts p hin.1 p' hp spot]
    split
    · rw [List.map_cons, List.map_cons, ih hin.2, ht p hin.1 p' hp spot]
    · exact ih hin.2

/-- A keyword looks at the same before and after it is rebased. -/
theorem marks_rebased (d : Draft) (h : Mirrors inner inner' k) (ht : traces.Mirrors traces' k)
    (hsettled : k.IsSettled) :
    marks d inner' traces' spot k.rebased = marks d inner traces spot k := by
  cases k with
  | reference kind target => exact hsettled.elim
  | properties named =>
    exact namesSuch_congr fun m _ => isNamed_rebased h (fun _ hp => hp) _ _
  | patternProperties ps =>
    exact namesSuch_congr fun m _ => isMatched_rebased h (fun _ hp => hp) _ _
  | members named ps others =>
    have hnamed : ∀ p ∈ namedParts "properties" named, p ∈ (members named ps others).parts :=
      fun p hp => List.mem_append_left _ (List.mem_append_right _ hp)
    have hpatterns : ∀ p ∈ patternParts ps, p ∈ (members named ps others).parts :=
      fun p hp => List.mem_append_left _ (List.mem_append_left _ hp)
    rw [rebased, marks, marks]
    refine namesSuch_congr fun m _ => ?_
    rw [isNamed_rebased h hnamed, isMatched_rebased h hpatterns]
    cases others with
    | none => rfl
    | some s =>
      have hmem : (⟨["additionalProperties"], s⟩ : Part) ∈ (members named ps (some s)).parts :=
        List.mem_append_right _ (by simp [optional])
      simp only [Option.map_some, Option.any_some, h.accepts_rebase hmem]
  | unevaluatedProperties s =>
    have hmem : (⟨["unevaluatedProperties"], s⟩ : Part) ∈ (unevaluatedProperties s).parts := by
      simp [parts]
    rw [rebased, marks, marks]
    exact namesSuch_congr fun m _ => h.accepts_rebase hmem _
  | dependencies keyword entries =>
    rw [rebased, marks, marks, List.map_map]
    congr 1
    refine List.map_congr_left fun e he => ?_
    obtain ⟨name, x⟩ := e
    cases x with
    | names ns => rfl
    | schema s =>
      have hmem : (⟨[keyword, name], s⟩ : Part) ∈ (dependencies keyword entries).parts :=
        List.mem_filterMap.2 ⟨(name, .schema s), he, rfl⟩
      simp only [Function.comp, Dependency.rebased, ht _ hmem _ (part_member _ name s)]
  | tuple keyword ss => simp only [rebased, marks, List.length_map]
  | contains s least most =>
    simp only [rebased, marks, h.acceptedItems_eq (show (⟨["contains"], s⟩ : Part) ∈
      (contains s least most).parts by simp [parts])]
  | unevaluatedItems s =>
    simp only [rebased, marks, h.acceptedItems_eq (show (⟨["unevaluatedItems"], s⟩ : Part) ∈
      (unevaluatedItems s).parts by simp [parts])]
  | allOf ss => exact acceptedMarks_rebased h ht (forall₂_parts (.allOf ss)) fun _ hp => hp
  | anyOf ss => exact acceptedMarks_rebased h ht (forall₂_parts (.anyOf ss)) fun _ hp => hp
  | oneOf ss => exact acceptedMarks_rebased h ht (forall₂_parts (.oneOf ss)) fun _ hp => hp
  | _ => rfl

theorem isUnevaluated_rebased (k : Keyword) : k.rebased.isUnevaluated = k.isUnevaluated := by
  cases k <;> rfl

/-- Whether a keyword allows everything. -/
def isOpen (ms : Members) (keyword : String) : Bool :=
  match Members.get? ms keyword with
  | some (.bool b) => b
  | _ => false

theorem isOpen_rebase {ms : Members} {keyword : String} (hk : keyword ≠ "$ref") :
    isOpen (rebaseMembers ms) keyword = isOpen ms keyword := by
  rw [isOpen, isOpen, get?_rebaseMembers hk ms]
  cases Members.get? ms keyword with
  | none => rfl
  | some v => cases v <;> rfl

theorem openMarks_eq (ms : Members) (spot : Spot) :
    openMarks ms spot = Marks.append
      (if isOpen ms "additionalProperties" then namesSuch spot fun _ _ => true else .none)
      (if isOpen ms "additionalItems" && (Members.get? ms "items").isSome then itemsFrom spot 0
        else .none) := rfl

theorem openMarks_rebase (ms : Members) (spot : Spot) :
    openMarks (rebaseMembers ms) spot = openMarks ms spot := by
  rw [openMarks_eq, openMarks_eq, isOpen_rebase (by decide), isOpen_rebase (by decide),
    get?_rebaseMembers (by decide) ms, Option.isSome_map]

/-- What the schema in a part of a condition has looked at. -/
def branchMarks (traces : Traces) (ms : Members) (spot : Spot) (keyword : String) : Marks :=
  match Members.get? ms keyword with
  | some (.obj ns) => traces.inside ⟨[keyword], .obj ns⟩ spot
  | _ => .none

theorem conditionMarks_eq (inner : Inner) (traces : Traces) (ms : Members) (spot : Spot) :
    conditionMarks inner traces ms spot =
      match Members.get? ms "if" with
      | some (.obj ns) =>
        if accepts inner spot ⟨["if"], .obj ns⟩ then
          (branchMarks traces ms spot "if").append (branchMarks traces ms spot "then")
        else branchMarks traces ms spot "else"
      | _ => .none := rfl

/-- The schemas of a condition look at the same before and after they are rebased. -/
theorem conditionMarks_rebase {ms : Members}
    (haccepts : ∀ v, Members.get? ms "if" = some v →
      accepts inner' spot ⟨["if"], rebase v⟩ = accepts inner spot ⟨["if"], v⟩)
    (hinside : ∀ keyword ∈ ["if", "then", "else"], ∀ v, Members.get? ms keyword = some v →
      traces'.inside ⟨[keyword], rebase v⟩ spot = traces.inside ⟨[keyword], v⟩ spot) :
    conditionMarks inner' traces' (rebaseMembers ms) spot =
      conditionMarks inner traces ms spot := by
  have hbranch : ∀ keyword ∈ ["if", "then", "else"],
      branchMarks traces' (rebaseMembers ms) spot keyword = branchMarks traces ms spot keyword := by
    intro keyword hk
    have hne : keyword ≠ "$ref" := by
      rintro rfl
      revert hk
      decide
    have hvalue := hinside keyword hk
    rw [branchMarks, branchMarks, get?_rebaseMembers hne ms]
    cases hv : Members.get? ms keyword with
    | none => rfl
    | some v =>
      cases v with
      | obj ns => exact hvalue _ hv
      | _ => rfl
  rw [conditionMarks_eq, conditionMarks_eq, hbranch "if" (by decide), hbranch "then" (by decide),
    hbranch "else" (by decide), get?_rebaseMembers (by decide) ms]
  cases hv : Members.get? ms "if" with
  | none => rfl
  | some v =>
    cases v with
    | obj ns =>
      have hif := haccepts _ hv
      simp only [Option.map_some, rebase] at hif ⊢
      rw [hif]
    | _ => rfl

end MessageContract.Keyword
