import MessageContract.Proofs.Except
import MessageContract.Proofs.Schema.Rebase.Value

/-!
# Keywords of rebased schemas

A keyword of a rebased schema object says what it said before, about rebased schemas and data
(`Keyword.agree_read`), and its faults and the schemas in it come in the same order
(`Keyword.agree_contents`).
-/

namespace MessageContract

/-- A dependency with the schema in it rebased. -/
def Dependency.rebased (name : String) : Dependency → Dependency
  | names ns => names ns
  | schema s => schema (rebaseMember name s)

namespace Keyword

/-- A keyword with the schemas and the data in it rebased. -/
def rebased : Keyword → Keyword
  | enum options => enum (options.map rebase)
  | constant c => constant (rebase c)
  | items s first => items (rebase s) first
  | tuple keyword ss => tuple keyword (ss.map rebase)
  | additionalItems allowed s => additionalItems allowed (s.map rebase)
  | contains s least most => contains (rebase s) least most
  | properties named => properties (rebaseMembers named)
  | patternProperties ps => patternProperties (ps.map fun p => (p.1, rebaseMember p.1.text p.2))
  | members named ps others =>
    members (rebaseMembers named) (ps.map fun p => (p.1, rebaseMember p.1.text p.2))
      (others.map rebase)
  | propertyNames s => propertyNames (rebase s)
  | dependencies keyword entries =>
    dependencies keyword (entries.map fun e => (e.1, e.2.rebased e.1))
  | allOf ss => allOf (ss.map rebase)
  | anyOf ss => anyOf (ss.map rebase)
  | oneOf ss => oneOf (ss.map rebase)
  | not s => not (rebase s)
  | conditional s yes no => conditional (rebase s) (yes.map rebase) (no.map rebase)
  | unevaluatedItems s => unevaluatedItems (rebase s)
  | unevaluatedProperties s => unevaluatedProperties (rebase s)
  | k => k

/-! ## Reading -/

/-- What is read from a rebased value: the same, rebased. -/
def Reads (o o' : Option Keyword) : Prop := o' = o.map rebased

variable {k : String} {v : Json} {ms : Members} {d : Dialect}

/-- What is read is the same. -/
theorem agree_same {o : Option Keyword} (h : o.map rebased = o) :
    Agree Reads (.ok o : Read) (.ok o : Read) := .ok h.symm

theorem agree_readText {f g : String → Read} (h : ∀ s, Agree Reads (f s) (g s)) (v : Json) :
    Agree Reads (readText v f) (readText (rebase v) g) := by
  cases v with
  | str s => exact h s
  | _ => exact .error _ _

theorem agree_readNumber {f g : Number → Read} (h : ∀ n, Agree Reads (f n) (g n))
    (v : Json) : Agree Reads (readNumber v f) (readNumber (rebase v) g) := by
  cases v with
  | num n => exact h n
  | _ => exact .error _ _

theorem agree_readMembers {f g : Members → Read}
    (h : ∀ ms, Agree Reads (f ms) (g (rebaseMembers ms))) (v : Json) :
    Agree Reads (readMembers v f) (readMembers (rebase v) g) := by
  cases v with
  | obj ms => exact h ms
  | _ => exact .error _ _

theorem agree_readItems {f g : List Json → Read}
    (h : ∀ xs, Agree Reads (f xs) (g (xs.map rebase))) (v : Json) :
    Agree Reads (readItems v f) (readItems (rebase v) g) := by
  cases v with
  | arr xs =>
    rw [rebase, rebaseItems_eq]
    exact h xs
  | _ => exact .error _ _

theorem agree_readName (v : Json) : Agree Eq (readName v) (readName (rebase v)) := by
  cases v with
  | str s => exact .ok rfl
  | _ => exact .error _ _

theorem agree_eq_mapM {α β : Type} {f : α → Except KeywordError β} {g : α → α}
    (h : ∀ x, Agree Eq (f x) (f (g x))) (xs : List α) :
    Agree Eq (xs.mapM f) ((xs.map g).mapM f) := by
  have hmap := Agree.mapM_map (q := id) (fun x => (h x).mono fun _ _ heq => heq.symm) xs
  exact hmap.mono fun as bs heq => by rw [heq, List.map_id]

theorem agree_readNames (v : Json) : Agree Eq (readNames v) (readNames (rebase v)) := by
  cases v with
  | arr xs =>
    rw [rebase, rebaseItems_eq]
    exact agree_eq_mapM agree_readName xs
  | _ => exact .error _ _

/-- Names are texts, and stay. -/
theorem map_rebase_of_names {xs : List Json} {ns : List String} (h : xs.mapM readName = .ok ns) :
    xs.map rebase = xs := by
  induction xs generalizing ns with
  | nil => rfl
  | cons x xs ih =>
    rw [List.mapM_cons] at h
    cases x with
    | str s =>
      cases hrest : xs.mapM readName with
      | error e =>
        rw [hrest] at h
        cases h
      | ok ms => exact congrArg (List.cons (.str s)) (ih hrest)
    | _ => cases h

theorem agree_readDistinctNames (v : Json) :
    Agree Eq (readDistinctNames v) (readDistinctNames (rebase v)) := by
  cases v with
  | arr xs =>
    have hnames := agree_readNames (.arr xs)
    cases hread : readNames (.arr xs) with
    | ok ns =>
      have hsame : rebase (.arr xs) = .arr xs := by
        rw [rebase, rebaseItems_eq, map_rebase_of_names hread]
      rw [hsame]
      exact .refl (fun _ => rfl) _
    | error e =>
      rw [hread] at hnames
      generalize hrebase : readNames (rebase (.arr xs)) = y at hnames
      cases hnames with
      | error _ e' =>
        rw [rebase] at hrebase ⊢
        rw [readDistinctNames, readDistinctNames, hread, hrebase]
        split <;> split <;> exact .error _ _
  | _ => exact .error _ _

/-! ## Types and limits -/

theorem agree_typeName (v : Json) : Agree Eq (typeName v) (typeName (rebase v)) := by
  cases v with
  | str s => exact .refl (fun _ => rfl) _
  | _ => exact .error _ _

theorem agree_soleType (d : Dialect) (v : Json) :
    Agree Reads (soleType d v) (soleType d (rebase v)) := by
  unfold soleType
  refine agree_readText (fun s => ?_) v
  split
  · exact agree_same rfl
  · exact .error _ _

theorem agree_readType (d : Dialect) (v : Json) :
    Agree Reads (readType d v) (readType d (rebase v)) := by
  have htypes : ∀ xs : List Json, Agree Reads
      ((xs.mapM typeName).map fun ts => some (.type ts (d.draft == .draft4)))
      (((xs.map rebase).mapM typeName).map fun ts => some (.type ts (d.draft == .draft4))) := by
    refine fun xs => (agree_eq_mapM agree_typeName xs).map ?_
    rintro ts _ rfl
    rfl
  cases v with
  | str s => exact agree_soleType d (.str s)
  | arr xs =>
    rw [rebase, rebaseItems_eq]
    rcases xs with _ | ⟨x, _ | ⟨y, xs⟩⟩
    · exact htypes []
    · exact agree_soleType d x
    · exact htypes (x :: y :: xs)
  | _ => exact .error _ _

theorem agree_readLimit (d : Dialect) (v : Json) :
    Agree Eq (readLimit d v) (readLimit d (rebase v)) := by
  cases v with
  | num n => exact .refl (fun _ => rfl) _
  | _ => exact .error _ _

theorem agree_readCount (v : Json) : Agree Eq (readCount v) (readCount (rebase v)) := by
  cases v with
  | num n => exact .refl (fun _ => rfl) _
  | _ => exact .error _ _

theorem agree_readBound (d : Dialect) (ms : Members) (kind exclusive : Bound) (v : Json) :
    Agree Reads (readBound d ms kind exclusive v)
      (readBound d (rebaseMembers ms) kind exclusive (rebase v)) := by
  unfold readBound
  refine agree_readNumber (fun n => ?_) v
  rw [get?_rebaseMembers (by cases exclusive <;> decide)]
  cases d.draft with
  | draft4 =>
    cases Members.get? ms exclusive.keyword with
    | none => exact agree_same rfl
    | some x =>
      cases x with
      | bool b => cases b <;> exact agree_same rfl
      | _ => exact agree_same rfl
  | _ => exact agree_same rfl

/-! ## Texts -/

theorem agree_readPattern (v : Json) : Agree Reads (readPattern v) (readPattern (rebase v)) := by
  unfold readPattern
  refine agree_readText (fun s => ?_) v
  split
  · exact agree_same rfl
  · exact .error _ _

theorem agree_readFormat (d : Dialect) (v : Json) :
    Agree Reads (readFormat d v) (readFormat d (rebase v)) := by
  unfold readFormat
  refine agree_readText (fun s => agree_same ?_) v
  cases (Format.ofName? s).filter fun f => d.draft.isSince (formatSince f) <;> rfl

theorem agree_readMediaType (ms : Members) (name : String) :
    Agree Reads (readMediaType ms name) (readMediaType (rebaseMembers ms) name) := by
  rw [readMediaType, readMediaType, get?_rebaseMembers (by decide)]
  split
  · exact agree_same rfl
  · cases Members.get? ms "contentEncoding" with
    | none => exact agree_same rfl
    | some x =>
      refine agree_readText (fun s => ?_) x
      split <;> exact agree_same rfl

theorem agree_readEncoding (ms : Members) (v : Json) :
    Agree Reads (readEncoding ms v) (readEncoding (rebaseMembers ms) (rebase v)) := by
  rw [readEncoding, readEncoding, get?_rebaseMembers (by decide), Option.isSome_map]
  split
  · exact agree_same rfl
  · refine agree_readText (fun s => agree_same ?_) v
    split <;> rfl

/-! ## Items -/

theorem firstItems_rebase (ms : Members) : firstItems (rebaseMembers ms) = firstItems ms := by
  rw [firstItems, firstItems, get?_rebaseMembers (by decide)]
  cases Members.get? ms "prefixItems" with
  | none => rfl
  | some x =>
    cases x with
    | arr xs =>
      rw [Option.map_some, rebase, rebaseItems_eq]
      exact List.length_map _
    | _ => rfl

theorem agree_readItemsKeyword (ms : Members) (v : Json) :
    Agree Reads (readItemsKeyword ms v) (readItemsKeyword (rebaseMembers ms) (rebase v)) := by
  cases v with
  | arr xs =>
    rw [rebase, rebaseItems_eq]
    exact .ok rfl
  | obj ns =>
    exact .ok (congrArg (fun n => some (items (rebase (.obj ns)) n)) (firstItems_rebase ms))
  | bool b => exact .ok (congrArg (fun n => some (items (.bool b) n)) (firstItems_rebase ms))
  | _ => exact .ok rfl

theorem agree_readAdditionalItems (ms : Members) (v : Json) :
    Agree Reads (readAdditionalItems ms v)
      (readAdditionalItems (rebaseMembers ms) (rebase v)) := by
  unfold readAdditionalItems
  rw [get?_rebaseMembers (by decide)]
  cases Members.get? ms "items" with
  | none => exact .ok rfl
  | some x =>
    cases x with
    | obj ns => exact .ok rfl
    | bool b => cases b <;> exact .ok rfl
    | arr xs =>
      rw [Option.map_some, rebase, rebaseItems_eq]
      cases v with
      | obj ns =>
        refine .ok ?_
        rw [List.length_map]
        rfl
      | bool b =>
        cases b
        · refine .ok ?_
          rw [List.length_map]
          rfl
        · exact .ok rfl
      | _ => exact .ok rfl
    | _ => exact .error _ _

theorem agree_readContains (d : Dialect) (ms : Members) (v : Json) :
    Agree Reads (readContains d ms v) (readContains d (rebaseMembers ms) (rebase v)) := by
  unfold readContains
  split
  · dsimp only
    have hcount : ∀ x, Agree Eq ((readCount x).map some) ((readCount (rebase x)).map some) :=
      fun x => (agree_readCount x).map fun _ _ h => h ▸ rfl
    rw [get?_rebaseMembers (by decide), get?_rebaseMembers (by decide)]
    refine Agree.bind (R := Eq) ?_ ?_
    · cases Members.get? ms "minContains" with
      | none => exact .ok rfl
      | some x => exact hcount x
    rintro least _ rfl
    refine Agree.bind (R := Eq) ?_ ?_
    · cases Members.get? ms "maxContains" with
      | none => exact .ok rfl
      | some x => exact hcount x
    rintro most _ rfl
    exact .ok rfl
  · exact .ok rfl

theorem agree_readUniqueItems (v : Json) :
    Agree Reads (readUniqueItems v) (readUniqueItems (rebase v)) := by
  cases v with
  | bool b => cases b <;> exact .ok rfl
  | _ => exact .ok rfl

/-! ## Members -/

theorem isComprehensive_rebase (ms : Members) :
    isComprehensive (rebaseMembers ms) = isComprehensive ms := by
  rw [isComprehensive, isComprehensive, get?_rebaseMembers (by decide)]
  cases Members.get? ms "additionalProperties" with
  | none => rfl
  | some x =>
    cases x with
    | bool b => cases b <;> rfl
    | _ => rfl

theorem hasMemberRules_rebase (ms : Members) :
    hasMemberRules (rebaseMembers ms) = hasMemberRules ms := by
  rw [hasMemberRules, hasMemberRules, get?_rebaseMembers (by decide),
    get?_rebaseMembers (by decide), Option.isSome_map, Option.isSome_map]

/-- Patterns stay, with the schemas under them rebased. -/
def ReadsPatterns (ps ps' : List (Pattern × Json)) : Prop :=
  ps' = ps.map fun p => (p.1, rebaseMember p.1.text p.2)

theorem agree_readPatternEntry (m : String × Json) :
    Agree (fun p p' => p' = (p.1, rebaseMember p.1.text p.2)) (readPatternEntry m)
      (readPatternEntry (m.1, rebaseMember m.1 m.2)) := by
  unfold readPatternEntry
  cases hp : pattern? m.1 with
  | none => exact .error _ _
  | some p =>
    have htext : p.text = m.1 := by
      obtain ⟨_, -, rfl⟩ := Option.map_eq_some_iff.1 hp
      rfl
    refine .ok ?_
    rw [htext]

theorem agree_mapM_readPatternEntry (ms : Members) :
    Agree ReadsPatterns (ms.mapM readPatternEntry) ((rebaseMembers ms).mapM readPatternEntry) := by
  rw [rebaseMembers_eq]
  exact Agree.mapM_map agree_readPatternEntry ms

theorem agree_readPatterns (v : Json) :
    Agree ReadsPatterns (readPatterns v) (readPatterns (rebase v)) := by
  cases v with
  | obj ms => exact agree_mapM_readPatternEntry ms
  | _ => exact .error _ _

theorem agree_readPropertyNames (v : Json) :
    Agree Reads (readPropertyNames v) (readPropertyNames (rebase v)) := by
  cases v with
  | bool b => cases b <;> exact .ok rfl
  | _ => exact .ok rfl

theorem agree_coveredPatterns (ms : Members) (v w : Json) :
    Agree ReadsPatterns (coveredPatterns ms v) (coveredPatterns (rebaseMembers ms) w) := by
  unfold coveredPatterns
  rw [get?_rebaseMembers (by decide)]
  cases Members.get? ms "patternProperties" with
  | none => exact .ok rfl
  | some x =>
    cases x with
    | obj ns => exact agree_mapM_readPatternEntry ns
    | _ => exact .error _ _

theorem agree_coveredNames (ms : Members) :
    Agree (fun ns ns' => ns' = rebaseMembers ns) (coveredNames ms)
      (coveredNames (rebaseMembers ms)) := by
  unfold coveredNames
  rw [get?_rebaseMembers (by decide)]
  cases Members.get? ms "properties" with
  | none => exact .ok rfl
  | some x =>
    cases x with
    | obj ns => exact .ok rfl
    | _ => exact .error _ _

theorem agree_readAdditionalProperties (ms : Members) (v : Json) :
    Agree Reads (readAdditionalProperties ms v)
      (readAdditionalProperties (rebaseMembers ms) (rebase v)) := by
  unfold readAdditionalProperties
  refine (agree_coveredPatterns ms v (rebase v)).bind ?_
  rintro ps _ rfl
  have hothers : ∀ others : Option Json, Agree Reads
      ((coveredNames ms) >>= fun named => Except.ok (some (.members named ps others)))
      ((coveredNames (rebaseMembers ms)) >>= fun named => Except.ok (some (.members named
        (ps.map fun p => (p.1, rebaseMember p.1.text p.2)) (others.map rebase)))) := by
    intro others
    refine (agree_coveredNames ms).bind ?_
    rintro named _ rfl
    exact .ok rfl
  cases v with
  | bool b =>
    cases b
    · have hsame : rebase (.bool false) = .bool false := rfl
      rw [hsame]
      dsimp only
      rw [hasMemberRules_rebase]
      split
      · exact hothers none
      · exact .ok rfl
    · exact .ok rfl
  | _ => exact hothers (some _)

theorem agree_readDependency (keyword : String) (m : String × Json) :
    Agree (fun x x' => x' = x.rebased m.1) (readDependency keyword m.2)
      (readDependency keyword (rebaseMember m.1 m.2)) := by
  obtain ⟨name, v⟩ := m
  have hnames : ∀ {x y : Except KeywordError (List String)}, Agree Eq x y →
      Agree (fun x x' => x' = x.rebased name) (x.map Dependency.names) (y.map .names) := by
    refine fun h => h.map ?_
    rintro ns _ rfl
    rfl
  by_cases hrequired : keyword = "dependentRequired"
  · subst hrequired
    refine hnames ?_
    dsimp only
    have hmember := rebases_member name v
    generalize rebaseMember name v = w at hmember
    cases hmember with
    | value => exact agree_readDistinctNames v
    | text => exact .error _ _
  · by_cases hdependencies : keyword = "dependencies"
    · subst hdependencies
      cases v with
      | arr xs => exact hnames (agree_readNames (.arr xs))
      | _ => exact .ok rfl
    · have hschema : ∀ v, readDependency keyword v = .ok (.schema v) := by
        intro v
        unfold readDependency
        split
        · exact absurd rfl hrequired
        · exact absurd rfl hdependencies
        · rfl
      rw [hschema, hschema]
      exact .ok rfl

theorem agree_readDependencies (keyword : String) (v : Json) :
    Agree Reads (readDependencies keyword v) (readDependencies keyword (rebase v)) := by
  unfold readDependencies
  refine agree_readMembers (fun ms => ?_) v
  rw [rebaseMembers_eq]
  refine (Agree.mapM_map (q := fun e => (e.1, e.2.rebased e.1)) (fun m => ?_) ms).bind ?_
  · refine (agree_readDependency keyword m).map ?_
    rintro x _ rfl
    rfl
  · rintro entries _ rfl
    exact .ok rfl

theorem agree_readCondition (ms : Members) (v : Json) :
    Agree Reads (readCondition ms v) (readCondition (rebaseMembers ms) (rebase v)) := by
  unfold readCondition
  rw [get?_rebaseMembers (by decide), get?_rebaseMembers (by decide)]
  cases Members.get? ms "then" <;> cases Members.get? ms "else" <;> exact .ok rfl

theorem agree_readSize (d : Dialect) (kind : Size) (v : Json) :
    Agree Reads (readSize d kind v) (readSize d kind (rebase v)) := by
  refine (agree_readLimit d v).map ?_
  rintro n _ rfl
  rfl

/-! ## All keywords -/

theorem agree_readKnown (d : Dialect) (ms : Members) (hk : k ≠ "$ref") (v : Json) :
    Agree Reads (readKnown d ms k v) (readKnown d (rebaseMembers ms) k (rebase v)) := by
  have htext : ∀ {f : String → Keyword}, (∀ s, (f s).rebased = f s) → Agree Reads
      (readText v fun s => .ok (some (f s))) (readText (rebase v) fun s => .ok (some (f s))) := by
    refine fun h => agree_readText (fun s => ?_) v
    exact agree_same (congrArg some (h s))
  have hnumber : ∀ {f : Number → Keyword}, (∀ n, (f n).rebased = f n) → Agree Reads
      (readNumber v fun n => .ok (some (f n)))
      (readNumber (rebase v) fun n => .ok (some (f n))) := by
    refine fun h => agree_readNumber (fun n => ?_) v
    exact agree_same (congrArg some (h n))
  have hitems : ∀ {f : List Json → Keyword}, (∀ xs, (f xs).rebased = f (xs.map rebase)) →
      Agree Reads (readItems v fun xs => .ok (some (f xs)))
        (readItems (rebase v) fun xs => .ok (some (f xs))) := by
    refine fun h => agree_readItems (fun xs => .ok ?_) v
    exact congrArg some (h xs).symm
  unfold readKnown
  split
  · exact absurd rfl hk
  · exact htext fun _ => rfl
  · exact htext fun _ => rfl
  · exact agree_readType d v
  · exact hitems fun _ => rfl
  · exact .ok rfl
  · exact agree_readBound d ms _ _ v
  · exact agree_readBound d ms _ _ v
  · exact hnumber fun _ => rfl
  · exact hnumber fun _ => rfl
  · exact hnumber fun _ => rfl
  · exact agree_readPattern v
  · exact agree_readFormat d v
  · refine (agree_readNames v).map ?_
    rintro ns _ rfl
    rfl
  · exact agree_readUniqueItems v
  · exact agree_readItemsKeyword ms v
  · exact hitems fun _ => rfl
  · exact agree_readAdditionalItems ms v
  · exact agree_readContains d ms v
  · rw [isComprehensive_rebase]
    split
    · exact .ok rfl
    · refine agree_readMembers (fun ns => .ok ?_) v
      rfl
  · rw [isComprehensive_rebase]
    split
    · exact .ok rfl
    · refine (agree_readPatterns v).map ?_
      rintro ps _ rfl
      rfl
  · exact agree_readAdditionalProperties ms v
  · exact agree_readPropertyNames v
  · exact agree_readDependencies _ v
  · exact agree_readDependencies _ v
  · exact agree_readDependencies _ v
  · exact hitems fun _ => rfl
  · exact hitems fun _ => rfl
  · exact hitems fun _ => rfl
  · exact .ok rfl
  · exact agree_readCondition ms v
  · exact agree_readEncoding ms v
  · exact agree_readText (agree_readMediaType ms) v
  · exact .ok rfl
  · exact .ok rfl
  · split
    · exact agree_readSize d _ v
    · exact .ok rfl

/-- A keyword of a rebased object says what it said before, rebased. -/
theorem agree_read (d : Dialect) (ms : Members) (hk : k ≠ "$ref") (v : Json) :
    Agree Reads (read d ms k v) (read d (rebaseMembers ms) k (rebase v)) := by
  rw [read, read]
  split
  · exact agree_readKnown d ms hk v
  · exact .ok rfl

/-! ## Parts -/

/-- A schema in a keyword, before and after. -/
structure Part.Rebases (p p' : Part) : Prop where
  path : p'.path = p.path
  schema : MessageContract.Rebases p.schema p'.schema

theorem forall₂_numbered (keyword : String) (ss : List Json) :
    List.Forall₂ Part.Rebases (numbered keyword ss) (numbered keyword (ss.map rebase)) := by
  rw [numbered, numbered, List.zipIdx_map, List.map_map]
  exact List.forall₂_map_left_iff.2 (List.forall₂_map_right_iff.2
    (List.forall₂_same.2 fun p _ => ⟨rfl, .value p.1⟩))

theorem forall₂_namedParts (keyword : String) (ms : Members) :
    List.Forall₂ Part.Rebases (namedParts keyword ms) (namedParts keyword (rebaseMembers ms)) := by
  rw [namedParts, namedParts, rebaseMembers_eq, List.map_map]
  exact List.forall₂_map_left_iff.2 (List.forall₂_map_right_iff.2
    (List.forall₂_same.2 fun m _ => ⟨rfl, rebases_member m.1 m.2⟩))

theorem forall₂_patternParts (ps : List (Pattern × Json)) :
    List.Forall₂ Part.Rebases (patternParts ps)
      (patternParts (ps.map fun p => (p.1, rebaseMember p.1.text p.2))) := by
  rw [patternParts, patternParts, List.map_map]
  exact List.forall₂_map_left_iff.2 (List.forall₂_map_right_iff.2
    (List.forall₂_same.2 fun p _ => ⟨rfl, rebases_member p.1.text p.2⟩))

theorem forall₂_optional (keyword : String) (s : Option Json) :
    List.Forall₂ Part.Rebases (optional keyword s) (optional keyword (s.map rebase)) := by
  cases s with
  | none => exact .nil
  | some v => exact .cons ⟨rfl, .value v⟩ .nil

theorem forall₂_parts (k : Keyword) : List.Forall₂ Part.Rebases k.parts k.rebased.parts := by
  have hone : ∀ (path : List String) (v : Json),
      List.Forall₂ Part.Rebases [⟨path, v⟩] [⟨path, rebase v⟩] :=
    fun path v => .cons ⟨rfl, .value v⟩ .nil
  cases k with
  | items s first => exact hone _ s
  | tuple keyword ss => exact forall₂_numbered _ ss
  | additionalItems allowed s => exact forall₂_optional _ s
  | contains s least most => exact hone _ s
  | properties named => exact forall₂_namedParts _ named
  | patternProperties ps => exact forall₂_patternParts ps
  | members named ps others =>
    exact List.rel_append (List.rel_append (forall₂_patternParts ps) (forall₂_namedParts _ named))
      (forall₂_optional _ others)
  | propertyNames s => exact hone _ s
  | dependencies keyword entries =>
    show List.Forall₂ Part.Rebases (entries.filterMap _)
      ((entries.map fun e => (e.1, e.2.rebased e.1)).filterMap _)
    induction entries with
    | nil => exact .nil
    | cons e entries ih =>
      obtain ⟨name, x⟩ := e
      cases x with
      | names ns => exact ih
      | schema s => exact .cons ⟨rfl, rebases_member name s⟩ ih
  | allOf ss => exact forall₂_numbered _ ss
  | anyOf ss => exact forall₂_numbered _ ss
  | oneOf ss => exact forall₂_numbered _ ss
  | not s => exact hone _ s
  | conditional s yes no =>
    exact .cons ⟨rfl, .value s⟩ (List.rel_append (forall₂_optional _ yes) (forall₂_optional _ no))
  | unevaluatedItems s => exact hone _ s
  | unevaluatedProperties s => exact hone _ s
  | _ => exact .nil

/-! ## Faults and parts in order -/

/-- Contents that come in the same order, before and after. -/
abbrev AgreeAll (cs cs' : List Content) : Prop := List.Forall₂ (Agree Part.Rebases) cs cs'

theorem agree_oks {ps ps' : List Part} (h : List.Forall₂ Part.Rebases ps ps') :
    AgreeAll (ps.map .ok) (ps'.map .ok) :=
  List.forall₂_map_left_iff.2 (List.forall₂_map_right_iff.2 (h.imp fun _ _ hp => .ok hp))

theorem agree_patternContents (ms : Members) :
    AgreeAll (patternContents ms) (patternContents (rebaseMembers ms)) := by
  rw [patternContents, patternContents, rebaseMembers_eq, List.flatMap_map]
  refine List.rel_flatMap (List.forall₂_same.2 fun m _ => rfl) ?_
  rintro m _ rfl
  dsimp only
  unfold readPatternEntry
  cases pattern? m.1 with
  | none => exact .cons (.error _ _) .nil
  | some p => exact .cons (.ok ⟨rfl, rebases_member m.1 m.2⟩) .nil

theorem agree_dependencyContent (keyword : String) (m : String × Json) :
    AgreeAll (dependencyContent keyword m)
      (dependencyContent keyword (m.1, rebaseMember m.1 m.2)) := by
  unfold dependencyContent
  have hread := agree_readDependency keyword m
  revert hread
  generalize readDependency keyword m.2 = x
  generalize readDependency keyword (m.1, rebaseMember m.1 m.2).2 = y
  intro hread
  cases hread with
  | @ok x _ h =>
    subst h
    cases x with
    | names ns => exact .nil
    | schema s => exact .cons (.ok ⟨rfl, rebases_member m.1 s⟩) .nil
  | error e e' => exact .cons (.error e e') .nil

/-- What comes of a keyword that is read as a whole. -/
def contentsOf (x : Read) : List Content :=
  match x with
  | .ok none => []
  | .ok (some k) => k.parts.map .ok
  | .error e => [.error e]

/-- Where nothing is looked at beside the keyword, it is read as a whole. -/
theorem contents_eq (d : Dialect) (hpatterns : k = "patternProperties" → ∀ ns, v ≠ .obj ns)
    (hadditional : k = "additionalProperties" →
      ∀ ns, Members.get? ms "patternProperties" ≠ some (.obj ns))
    (hdependencies : k = "dependencies" → ∀ ns, v ≠ .obj ns) :
    contents d ms k v = if d.knows k then contentsOf (read d ms k v) else [] := by
  unfold contents
  cases d.knows k with
  | false => rfl
  | true =>
    generalize Members.get? ms "patternProperties" = x at hadditional ⊢
    dsimp only
    rw [if_neg (by decide), if_pos rfl]
    split
    · exact absurd rfl (hpatterns rfl _)
    · exact absurd rfl (hadditional rfl _)
    · exact absurd rfl (hadditional rfl _)
    · exact absurd rfl (hdependencies rfl _)
    · rfl

theorem agree_contentsOf {x y : Read} (h : Agree Reads x y) :
    AgreeAll (contentsOf x) (contentsOf y) := by
  cases h with
  | @ok o _ h =>
    subst h
    cases o with
    | none => exact .nil
    | some k => exact agree_oks (forall₂_parts k)
  | error e e' => exact .cons (.error e e') .nil

theorem agree_coveredContents (ms : Members) (others : Option Json) :
    AgreeAll
      (match coveredNames ms with
      | .error e => [.error e]
      | .ok named => ((Keyword.members named [] others).parts).map .ok)
      (match coveredNames (rebaseMembers ms) with
      | .error e => [.error e]
      | .ok named => ((Keyword.members named [] (others.map rebase)).parts).map .ok) := by
  have hnames := agree_coveredNames ms
  revert hnames
  generalize coveredNames ms = x
  generalize coveredNames (rebaseMembers ms) = y
  intro hnames
  cases hnames with
  | @ok named _ h =>
    subst h
    exact agree_oks (forall₂_parts (.members named [] others))
  | error e e' => exact .cons (.error e e') .nil

theorem rebase_ne_obj (h : ∀ ns, v ≠ .obj ns) (ns : Members) : rebase v ≠ .obj ns := by
  cases v with
  | obj ns => exact absurd rfl (h ns)
  | _ => simp [rebase]

theorem agree_contents (d : Dialect) (ms : Members) (hk : k ≠ "$ref") (v : Json) :
    AgreeAll (contents d ms k v) (contents d (rebaseMembers ms) k (rebase v)) := by
  have hpatterns : Members.get? (rebaseMembers ms) "patternProperties" =
      (Members.get? ms "patternProperties").map rebase := get?_rebaseMembers (by decide) ms
  by_cases hwhole : (k = "patternProperties" → ∀ ns, v ≠ .obj ns) ∧
      (k = "additionalProperties" →
        ∀ ns, Members.get? ms "patternProperties" ≠ some (.obj ns)) ∧
      (k = "dependencies" → ∀ ns, v ≠ .obj ns)
  · have hadditional : k = "additionalProperties" →
        ∀ ns, Members.get? (rebaseMembers ms) "patternProperties" ≠ some (.obj ns) := by
      intro hk ns hns
      rw [hpatterns] at hns
      obtain ⟨x, hx, hrebase⟩ := Option.map_eq_some_iff.1 hns
      refine rebase_ne_obj (fun ns' hx' => ?_) ns hrebase
      exact hwhole.2.1 hk ns' (hx' ▸ hx)
    rw [contents_eq d hwhole.1 hwhole.2.1 hwhole.2.2,
      contents_eq d (fun hk => rebase_ne_obj (hwhole.1 hk)) hadditional
        fun hk => rebase_ne_obj (hwhole.2.2 hk)]
    split
    · exact agree_contentsOf (agree_read d ms hk v)
    · exact .nil
  · unfold contents
    dsimp only
    split
    · exact .nil
    simp only [not_and_or, Classical.not_imp, not_forall, not_not] at hwhole
    rcases hwhole with ⟨rfl, ns, rfl⟩ | ⟨rfl, ns, hns⟩ | ⟨rfl, ns, rfl⟩
    · show AgreeAll (if isComprehensive ms then [] else patternContents ns)
        (if isComprehensive (rebaseMembers ms) then [] else patternContents (rebaseMembers ns))
      rw [isComprehensive_rebase]
      split
      · exact .nil
      · exact agree_patternContents ns
    · rw [hpatterns, hns]
      cases v with
      | bool b =>
        cases b
        · exact List.rel_append (agree_patternContents ns) (agree_coveredContents ms none)
        · exact agree_patternContents ns
      | _ => exact List.rel_append (agree_patternContents ns) (agree_coveredContents ms (some _))
    · show AgreeAll (ns.flatMap _) ((rebaseMembers ns).flatMap _)
      rw [rebaseMembers_eq, List.flatMap_map]
      refine List.rel_flatMap (List.forall₂_same.2 fun m _ => rfl) ?_
      rintro m _ rfl
      exact agree_dependencyContent _ m

end Keyword
end MessageContract
