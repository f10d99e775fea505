import MessageContract.Proofs.Schema.Rebase.Position

/-!
# Where keywords and their schemas stand

The evaluation of a schema goes by steps: to a keyword of a schema object, and from there possibly
to a name or an index under it (`Evaluation.Step`). Every keyword that is read from an object stands
in it: its names are members of the object, and the steps to the schemas that it hands on lead there
(`Keyword.Stands`, shown by `Dialect.stands_of_mem_keywords`).
-/

namespace MessageContract

namespace Evaluation

/-- A step to a keyword of a schema object, or to a name or an index under a keyword. -/
inductive Step
  | keyword (name : String)
  | name (name : String)
  | index (i : Nat)
  deriving DecidableEq, Repr

/-- A step as it is told. -/
def Step.text : Step → String
  | keyword k => k
  | name n => n
  | index i => toString i

end Evaluation

namespace Keyword

open Evaluation

/-- The keywords with schemas whose violations are those of the keyword, in some draft. -/
def applicators : List String :=
  ["items", "prefixItems", "additionalItems", "properties", "patternProperties",
    "additionalProperties", "dependencies", "dependentRequired", "dependentSchemas", "allOf",
    "then", "else"]

/-- The keywords for references. -/
def referrers : List String := ["$ref", "$recursiveRef", "$dynamicRef"]

/-- All keywords that say something, in some draft, but for that which asks for types. -/
def untyped : List String :=
  referrers ++ ["enum", "const", "minimum", "maximum", "exclusiveMinimum", "exclusiveMaximum",
    "multipleOf", "minLength", "maxLength", "minItems", "maxItems", "minProperties",
    "maxProperties", "pattern", "format", "required", "uniqueItems", "contains", "minContains",
    "maxContains", "propertyNames", "anyOf", "oneOf", "not", "if", "contentEncoding",
    "contentMediaType", "unevaluatedItems", "unevaluatedProperties"] ++ applicators

/-- All keywords that say something, in some draft. -/
def vocabulary : List String := "type" :: untyped

/-- The keywords of a schema object that one stands for. -/
def names : Keyword → List String
  | reference kind _ => [kind.keyword]
  | type _ _ => ["type"]
  | enum _ => ["enum"]
  | constant _ => ["const"]
  | bound kind _ => [kind.keyword]
  | multipleOf _ => ["multipleOf"]
  | size kind _ => [kind.keyword]
  | pattern _ => ["pattern"]
  | format _ _ => ["format"]
  | required _ => ["required"]
  | uniqueItems => ["uniqueItems"]
  | items _ _ => ["items"]
  | tuple keyword _ => [keyword]
  | additionalItems _ _ => ["additionalItems"]
  | never keyword => [keyword]
  | contains _ least most =>
    "contains" :: ((least.map fun _ => "minContains").toList ++
      (most.map fun _ => "maxContains").toList)
  | properties _ => ["properties"]
  | patternProperties _ => ["patternProperties"]
  | members _ _ _ => ["additionalProperties"]
  | noMembers => ["additionalProperties"]
  | propertyNames _ => ["propertyNames"]
  | dependencies keyword _ => [keyword]
  | allOf _ => ["allOf"]
  | anyOf _ => ["anyOf"]
  | oneOf _ => ["oneOf"]
  | not _ => ["not"]
  | conditional _ _ _ => ["if"]
  | contentEncoding _ => ["contentEncoding"]
  | contentMediaType _ => ["contentMediaType"]
  | encodedContent _ _ => ["contentEncoding", "contentMediaType"]
  | unevaluatedItems _ => ["unevaluatedItems"]
  | unevaluatedProperties _ => ["unevaluatedProperties"]

/-- The schemas in a keyword whose violations are those of the keyword. Of the others it only
matters whether they accept a value, or what they find is told in another way. -/
def handsOn : Keyword → List Part
  | contains _ _ _ => []
  | propertyNames _ => []
  | anyOf _ => []
  | oneOf _ => []
  | not _ => []
  | conditional _ yes no => optional "then" yes ++ optional "else" no
  | unevaluatedItems _ => []
  | unevaluatedProperties _ => []
  | kw => kw.parts

/-- The steps from a schema object to a value under one of its keywords. -/
inductive Under (ms : Members) : List Step → Json → Prop
  | value {k : String} {v : Json} (known : k ∈ applicators) (member : (k, v) ∈ ms) :
    Under ms [.keyword k] v
  | item {k : String} {xs : List Json} {i : Nat} {v : Json} (known : k ∈ applicators)
      (member : (k, .arr xs) ∈ ms) (item : xs[i]? = some v) :
    Under ms [.keyword k, .index i] v
  | entry {k n : String} {ns : Members} {v : Json} (known : k ∈ applicators)
      (member : (k, .obj ns) ∈ ms) (entry : (n, v) ∈ ns) :
    Under ms [.keyword k, .name n] v

/-- What is written where types are asked for. -/
inductive Declares : Json → List TypeName → Prop
  | one (t : TypeName) : Declares (.str t.write) [t]
  | several (ts : List TypeName) : Declares (.arr (ts.map fun t => .str t.write)) ts

/-- A keyword is read from the members of an object. -/
structure Stands (ms : Members) (kw : Keyword) : Prop where
  names : ∀ k ∈ kw.names, k ∈ vocabulary ∧ k ∈ ms.map (·.1)
  parts : ∀ p ∈ kw.handsOn, ∃ steps, p.path = steps.map Step.text ∧ Under ms steps p.schema
  reference : ∀ kind target, kw = .reference kind target → (kind.keyword, .str target) ∈ ms
  propertyNames : ∀ s, kw = .propertyNames s → ("propertyNames", s) ∈ ms
  type : "type" ∈ kw.names →
    ∃ ts strict v, kw = .type ts strict ∧ ("type", v) ∈ ms ∧ Declares v ts

variable {d : Dialect} {ms : Members} {k : String} {v : Json} {kw : Keyword}

theorem mem_vocabulary_of_untyped (hk : k ∈ untyped) : k ∈ vocabulary := List.mem_cons_of_mem _ hk

theorem mem_untyped_of_applicator (hk : k ∈ applicators) : k ∈ untyped :=
  List.mem_append_right _ hk

theorem mem_vocabulary_of_applicator (hk : k ∈ applicators) : k ∈ vocabulary :=
  mem_vocabulary_of_untyped (mem_untyped_of_applicator hk)

theorem ne_type_of_untyped (hk : k ∈ untyped) : k ≠ "type" := by
  rintro rfl
  exact absurd hk (by decide)

/-- Steps as they are told lead to a schema. -/
abbrev IsUnder (ms : Members) (p : Part) : Prop :=
  ∃ steps, p.path = steps.map Step.text ∧ Under ms steps p.schema

/-- A keyword that is no reference and not about names, with the schemas that it hands on. -/
theorem stands_parts (hnames : ∀ k ∈ kw.names, k ∈ untyped ∧ k ∈ ms.map (·.1))
    (hparts : ∀ p ∈ kw.handsOn, IsUnder ms p) (href : ∀ kind target, kw ≠ .reference kind target)
    (hother : ∀ s, kw ≠ .propertyNames s) : Stands ms kw where
  names := fun k hk => ⟨mem_vocabulary_of_untyped (hnames k hk).1, (hnames k hk).2⟩
  parts := hparts
  reference := fun kind target heq => absurd heq (href kind target)
  propertyNames := fun s heq => absurd heq (hother s)
  type := fun htype => absurd rfl (ne_type_of_untyped (hnames _ htype).1)

/-! ## Keywords that hand nothing on -/

/-- A keyword that is no reference, is not about names, and hands nothing on. -/
def isSimple : Keyword → Bool
  | reference _ _ => false
  | propertyNames _ => false
  | kw => kw.handsOn.isEmpty

theorem stands_simple (h : kw.isSimple = true)
    (hnames : ∀ k ∈ kw.names, k ∈ untyped ∧ k ∈ ms.map (·.1)) : Stands ms kw := by
  have hparts : kw.handsOn = [] := by
    cases kw with
    | reference _ _ => cases h
    | propertyNames _ => cases h
    | _ => exact List.isEmpty_iff.1 h
  refine stands_parts hnames (by simp [hparts]) ?_ ?_
  · rintro kind target rfl
    cases h
  · rintro s rfl
    cases h

/-- The same for one that stands for a single keyword. -/
theorem stands_sole (h : kw.isSimple = true) (hnames : kw.names = [k]) (hk : k ∈ untyped)
    (hm : (k, v) ∈ ms) : Stands ms kw := by
  refine stands_simple h ?_
  rw [hnames]
  exact List.forall_mem_singleton.2 ⟨hk, List.mem_map_of_mem hm⟩

theorem mem_names_of_get? {k : String} {x : Json} (h : ms.get? k = some x) : k ∈ ms.map (·.1) :=
  List.mem_map_of_mem (Members.mem_of_get? h)

theorem eq_write_of_ofText? {s : String} {t : TypeName} (h : TypeName.ofText? s = some t) :
    s = t.write := by
  have hwrite := List.find?_some h
  exact (eq_of_beq hwrite).symm

theorem eq_of_typeName {t : TypeName} (h : typeName v = .ok t) : v = .str t.write := by
  unfold typeName at h
  split at h
  · split at h
    · next htext =>
      rw [eq_write_of_ofText? htext, Except.ok.inj h]
    · cases h
  · cases h

theorem eq_of_mapM_typeName {xs : List Json} {ts : List TypeName}
    (h : xs.mapM typeName = .ok ts) : xs = ts.map fun t => .str t.write := by
  induction xs generalizing ts with
  | nil =>
    cases h
    rfl
  | cons x xs ih =>
    rw [List.mapM_cons] at h
    obtain ⟨t, ht, hrest⟩ := bind_eq_ok h
    obtain ⟨us, hus, hcons⟩ := bind_eq_ok hrest
    cases hcons
    rw [List.map_cons, eq_of_typeName ht, ih hus]

theorem stands_type {ts : List TypeName} {strict : Bool} (hm : ("type", v) ∈ ms)
    (h : Declares v ts) : Stands ms (.type ts strict) where
  names := List.forall_mem_singleton.2 ⟨by decide, List.mem_map_of_mem hm⟩
  parts := by simp [handsOn, Keyword.parts]
  reference := nofun
  propertyNames := nofun
  type := fun _ => ⟨ts, strict, v, rfl, hm, h⟩

theorem stands_readType (hm : ("type", v) ∈ ms) : Yields (Stands ms) (readType d v) := by
  have hsole : ∀ w, (∀ t : TypeName, w = .str t.write → Declares v [t]) →
      Yields (Stands ms) (soleType d w) := by
    intro w hw
    refine Yields.readText fun s hs => ?_
    split
    · next t ht => exact .some (stands_type hm (hw t (by rw [hs, eq_write_of_ofText? ht])))
    · exact .error _
  unfold readType
  split
  · exact hsole _ fun t ht => ht ▸ .one t
  · exact hsole _ fun t ht => ht ▸ .several [t]
  · next xs _ =>
    refine .map fun ts hts => .some (stands_type hm ?_)
    rw [eq_of_mapM_typeName hts]
    exact .several ts
  · exact .error _

theorem stands_readBound (kind : Bound) {exclusive : Bound} (hkind : kind.keyword ∈ untyped)
    (hexclusive : exclusive.keyword ∈ untyped) (hm : (kind.keyword, v) ∈ ms) :
    Yields (Stands ms) (readBound d ms kind exclusive v) := by
  refine Yields.readNumber fun n => ?_
  split
  · next hflag =>
    exact .some (stands_sole rfl rfl hexclusive (Members.mem_of_get? hflag))
  · exact .some (stands_sole rfl rfl hkind hm)

theorem stands_readPattern (hm : ("pattern", v) ∈ ms) : Yields (Stands ms) (readPattern v) := by
  refine Yields.readText fun s _ => ?_
  split
  · exact .some (stands_sole rfl rfl (by decide) hm)
  · exact .error _

theorem stands_readFormat (hm : ("format", v) ∈ ms) : Yields (Stands ms) (readFormat d v) := by
  refine Yields.readText fun s _ => ?_
  cases (Format.ofName? s).filter fun f => d.draft.isSince (formatSince f) with
  | none => exact .none
  | some f => exact .some (stands_sole rfl rfl (by decide) hm)

theorem stands_readUniqueItems (hm : ("uniqueItems", v) ∈ ms) :
    Yields (Stands ms) (readUniqueItems v) := by
  unfold readUniqueItems
  split
  · exact .some (stands_sole rfl rfl (by decide) hm)
  · exact .none

theorem stands_readMediaType (hm : ("contentMediaType", v) ∈ ms) (name : String) :
    Yields (Stands ms) (readMediaType ms name) := by
  unfold readMediaType
  split
  · exact .none
  · split
    · exact .some (stands_sole rfl rfl (by decide) hm)
    · next hget =>
      refine Yields.readText fun s _ => ?_
      split
      · refine .some (stands_simple rfl ?_)
        exact List.forall_mem_cons.2 ⟨⟨by decide, mem_names_of_get? hget⟩,
          List.forall_mem_singleton.2 ⟨by decide, List.mem_map_of_mem hm⟩⟩
      · exact .none

theorem stands_readEncoding (hm : ("contentEncoding", v) ∈ ms) :
    Yields (Stands ms) (readEncoding ms v) := by
  unfold readEncoding
  split
  · exact .none
  · refine Yields.readText fun s _ => ?_
    split
    · exact .some (stands_sole rfl rfl (by decide) hm)
    · exact .none

/-! ## Keywords that hand on -/

section

variable {xs : List Json} {ns : Members}

theorem isUnder_value (hk : k ∈ applicators) (hm : (k, v) ∈ ms) : IsUnder ms ⟨[k], v⟩ :=
  ⟨[.keyword k], rfl, .value hk hm⟩

theorem isUnder_numbered (hk : k ∈ applicators) (hm : (k, .arr xs) ∈ ms) :
    ∀ p ∈ numbered k xs, IsUnder ms p := by
  intro p hp
  obtain ⟨⟨x, i⟩, hx, rfl⟩ := List.mem_map.1 hp
  exact ⟨[.keyword k, .index i], rfl, .item hk hm (List.mem_zipIdx_iff_getElem?.1 hx)⟩

theorem isUnder_namedParts (hk : k ∈ applicators) (hm : (k, .obj ns) ∈ ms) :
    ∀ p ∈ namedParts k ns, IsUnder ms p := by
  intro p hp
  obtain ⟨m, hmem, rfl⟩ := List.mem_map.1 hp
  exact ⟨[.keyword k, .name m.1], rfl, .entry hk hm hmem⟩

theorem isUnder_optional {x : Option Json} (hk : k ∈ applicators)
    (hx : ∀ w, x = some w → (k, w) ∈ ms) : ∀ p ∈ optional k x, IsUnder ms p := by
  intro p hp
  cases x with
  | none => cases hp
  | some w =>
    rw [List.mem_singleton.1 hp]
    exact isUnder_value hk (hx w rfl)

theorem eq_of_readPatternEntry {m : String × Json} {p : Pattern × Json}
    (h : readPatternEntry m = .ok p) : m = (p.1.text, p.2) := by
  unfold readPatternEntry at h
  split at h
  · next q hq =>
    cases h
    obtain ⟨matcher, -, rfl⟩ := Option.map_eq_some_iff.1 hq
    rfl
  · cases h

theorem isUnder_patternParts {ps : List (Pattern × Json)}
    (hm : ("patternProperties", .obj ns) ∈ ms) (hps : ns.mapM readPatternEntry = .ok ps) :
    ∀ p ∈ patternParts ps, IsUnder ms p := by
  intro p hp
  obtain ⟨q, hq, rfl⟩ := List.mem_map.1 hp
  obtain ⟨m, hmem, hread⟩ := exists_of_mapM hps q hq
  rw [eq_of_readPatternEntry hread] at hmem
  exact ⟨[.keyword "patternProperties", .name q.1.text], rfl, .entry (by decide) hm hmem⟩

theorem sole_name (hk : k ∈ untyped) (hm : (k, v) ∈ ms) :
    ∀ x ∈ [k], x ∈ untyped ∧ x ∈ ms.map (·.1) :=
  List.forall_mem_singleton.2 ⟨hk, List.mem_map_of_mem hm⟩

/-- One that hands on a single schema, its value. -/
theorem stands_schema (hk : k ∈ applicators) (hm : (k, v) ∈ ms) (hnames : kw.names = [k])
    (hparts : kw.handsOn = [⟨[k], v⟩]) : Stands ms kw := by
  refine stands_parts (hnames ▸ sole_name (mem_untyped_of_applicator hk) hm) ?_ ?_ ?_
  · rw [hparts]
    exact List.forall_mem_singleton.2 (isUnder_value hk hm)
  · rintro kind target rfl
    cases hparts
  · rintro s rfl
    cases hparts

theorem stands_readItemsKeyword (hm : ("items", v) ∈ ms) :
    Yields (Stands ms) (readItemsKeyword ms v) := by
  unfold readItemsKeyword
  split
  · exact .some (stands_parts (sole_name (by decide) hm) (isUnder_numbered (by decide) hm)
      nofun nofun)
  · exact .some (stands_schema (by decide) hm rfl rfl)
  · exact .some (stands_schema (by decide) hm rfl rfl)
  · exact .none

theorem stands_readAdditionalItems (hm : ("additionalItems", v) ∈ ms) :
    Yields (Stands ms) (readAdditionalItems ms v) := by
  have hsome : ∀ allowed, Stands ms (.additionalItems allowed (some v)) :=
    fun allowed => stands_schema (by decide) hm rfl rfl
  have hnone : ∀ allowed, Stands ms (.additionalItems allowed none) :=
    fun allowed => stands_sole rfl rfl (by decide) hm
  have hnever : Stands ms (.never "additionalItems") := stands_sole rfl rfl (by decide) hm
  unfold readAdditionalItems
  split
  all_goals first
    | exact .none
    | exact .error _
    | exact .some hnever
    | exact .some (hnone _)
    | exact .some (hsome _)

theorem stands_readContains (hm : ("contains", v) ∈ ms) :
    Yields (Stands ms) (readContains d ms v) := by
  have hstands : ∀ least most : Option Nat,
      (∀ n, least = some n → "minContains" ∈ ms.map (·.1)) →
      (∀ n, most = some n → "maxContains" ∈ ms.map (·.1)) → Stands ms (.contains v least most) := by
    intro least most hleast hmost
    refine stands_simple rfl ?_
    have hlow : "minContains" ∈ untyped := by decide
    have hhigh : "maxContains" ∈ untyped := by decide
    refine List.forall_mem_cons.2 ⟨⟨by decide, List.mem_map_of_mem hm⟩, ?_⟩
    refine List.forall_mem_append.2 ⟨?_, ?_⟩
    · cases least with
      | none => simp
      | some n => exact List.forall_mem_singleton.2 ⟨hlow, hleast n rfl⟩
    · cases most with
      | none => simp
      | some n => exact List.forall_mem_singleton.2 ⟨hhigh, hmost n rfl⟩
  have hcount : ∀ {keyword : String} {x : Option Nat}, (ms.get? keyword = none → x = none) →
      ∀ n, x = some n → keyword ∈ ms.map (·.1) := by
    intro keyword x h n hn
    cases hget : ms.get? keyword with
    | some w => exact mem_names_of_get? hget
    | none =>
      rw [h hget] at hn
      cases hn
  unfold readContains
  split
  · refine .bind fun least hleast => .bind fun most hmost => .some (hstands least most ?_ ?_)
    · exact hcount fun hnone => by simpa [hnone, eq_comm] using hleast
    · exact hcount fun hnone => by simpa [hnone, eq_comm] using hmost
  · exact .some (hstands none none nofun nofun)

theorem isUnder_coveredPatterns {ps : List (Pattern × Json)}
    (h : coveredPatterns ms v = .ok ps) : ∀ p ∈ patternParts ps, IsUnder ms p := by
  unfold coveredPatterns at h
  split at h
  · cases h
    simp [patternParts]
  · next ns hns => exact isUnder_patternParts (Members.mem_of_get? hns) h
  · cases h

theorem isUnder_coveredNames {named : Members} (h : coveredNames ms = .ok named) :
    ∀ p ∈ namedParts "properties" named, IsUnder ms p := by
  unfold coveredNames at h
  split at h
  · cases h
    simp [namedParts]
  · next hns =>
    cases h
    exact isUnder_namedParts (by decide) (Members.mem_of_get? hns)
  · cases h

theorem stands_readAdditionalProperties (hm : ("additionalProperties", v) ∈ ms) :
    Yields (Stands ms) (readAdditionalProperties ms v) := by
  have hmembers : ∀ {named ps others}, coveredPatterns ms v = .ok ps →
      coveredNames ms = .ok named → (∀ w, others = some w → w = v) →
      Stands ms (.members named ps others) := by
    intro named ps others hps hnamed hothers
    refine stands_parts (sole_name (by decide) hm) ?_ nofun nofun
    refine List.forall_mem_append.2 ⟨List.forall_mem_append.2 ⟨isUnder_coveredPatterns hps,
      isUnder_coveredNames hnamed⟩, ?_⟩
    exact isUnder_optional (by decide) fun w hw => hothers w hw ▸ hm
  unfold readAdditionalProperties
  refine .bind fun ps hps => ?_
  split
  · exact .none
  · split
    · exact .bind fun named hnamed => .some (hmembers hps hnamed nofun)
    · exact .some (stands_sole rfl rfl (by decide) hm)
  · refine .bind fun named hnamed => .some (hmembers hps hnamed ?_)
    rintro w ⟨⟩
    rfl

theorem stands_propertyNames (hm : ("propertyNames", v) ∈ ms) : Stands ms (.propertyNames v) where
  names := List.forall_mem_singleton.2 ⟨by decide, List.mem_map_of_mem hm⟩
  parts := nofun
  reference := nofun
  propertyNames := by
    rintro s ⟨⟩
    exact hm
  type := by simp [names]

theorem stands_readPropertyNames (hm : ("propertyNames", v) ∈ ms) :
    Yields (Stands ms) (readPropertyNames v) := by
  unfold readPropertyNames
  split
  · exact .some (stands_propertyNames hm)
  · exact .some (stands_propertyNames hm)
  · exact .none

theorem stands_readDependencies (hk : k ∈ applicators) (hm : (k, v) ∈ ms) :
    Yields (Stands ms) (readDependencies k v) := by
  refine Yields.readMembers fun ns hns => .bind fun entries hentries => .some ?_
  refine stands_parts (sole_name (mem_untyped_of_applicator hk) hm) ?_ nofun nofun
  intro p hp
  obtain ⟨⟨name, dep⟩, hentry, hsome⟩ := List.mem_filterMap.1 hp
  cases dep with
  | names _ => cases hsome
  | schema s =>
    cases hsome
    obtain ⟨m, hmem, hread⟩ := exists_of_mapM hentries _ hentry
    obtain ⟨dep, hdep, heq⟩ := map_eq_ok hread
    cases heq
    obtain ⟨rfl, -⟩ := of_readDependency hdep
    exact ⟨[.keyword k, .name m.1], rfl, .entry hk (hns ▸ hm) hmem⟩

theorem stands_readCondition (hm : ("if", v) ∈ ms) : Yields (Stands ms) (readCondition ms v) := by
  unfold readCondition
  split
  · exact .none
  · refine .some (stands_parts (sole_name (by decide) hm) ?_ nofun nofun)
    exact List.forall_mem_append.2
      ⟨isUnder_optional (by decide) fun w hw => Members.mem_of_get? hw,
        isUnder_optional (by decide) fun w hw => Members.mem_of_get? hw⟩

/-- A keyword that hands on all schemas in a list. -/
theorem stands_readList {f : List Json → Keyword} (hk : k ∈ applicators) (hm : (k, v) ∈ ms)
    (hnames : ∀ xs, (f xs).names = [k]) (hparts : ∀ xs, (f xs).handsOn = numbered k xs)
    (href : ∀ xs kind target, f xs ≠ .reference kind target)
    (hother : ∀ xs s, f xs ≠ .propertyNames s) :
    Yields (Stands ms) (readItems v fun xs => .ok (some (f xs))) := by
  refine Yields.readItems fun xs hxs => .some (stands_parts ?_ ?_ (href xs) (hother xs))
  · rw [hnames]
    exact sole_name (mem_untyped_of_applicator hk) hm
  · rw [hparts]
    exact isUnder_numbered hk (hxs ▸ hm)

end

/-! ## All keywords -/

theorem reference_keyword_mem (kind : ReferenceKind) : kind.keyword ∈ referrers := by
  cases kind <;> decide

theorem mem_untyped_of_referrer (hk : k ∈ referrers) : k ∈ untyped :=
  List.mem_append_left _ (List.mem_append_left _ hk)

theorem stands_reference (kind : ReferenceKind) (hm : (kind.keyword, v) ∈ ms) :
    Yields (Stands ms) (readText v fun s => .ok (some (.reference kind s))) := by
  refine Yields.readText fun s hs => .some ?_
  have hk := mem_untyped_of_referrer (reference_keyword_mem kind)
  refine ⟨List.forall_mem_singleton.2 ⟨mem_vocabulary_of_untyped hk, List.mem_map_of_mem hm⟩,
    by simp [handsOn, Keyword.parts], ?_, nofun, ?_⟩
  · rintro kind' target heq
    cases heq
    exact hs ▸ hm
  · intro htype
    exact absurd (List.mem_singleton.1 htype).symm (ne_type_of_untyped hk)

theorem size_keyword_mem (kind : Size) : kind.keyword ∈ untyped := by
  obtain ⟨measure, atMost⟩ := kind
  cases measure <;> cases atMost <;> decide

theorem keyword_of_ofKeyword? {kind : Size} (h : Size.ofKeyword? k = some kind) :
    kind.keyword = k := by
  unfold Size.ofKeyword? at h
  have hfound := List.find?_some h
  exact eq_of_beq hfound

theorem stands_readKnown (hm : (k, v) ∈ ms) : Yields (Stands ms) (readKnown d ms k v) := by
  have hsole : ∀ {kw : Keyword} {k : String}, kw.isSimple = true → kw.names = [k] →
      k ∈ untyped → (k, v) ∈ ms → Yields (Stands ms) (.ok (some kw)) :=
    fun h hnames hk hm => .some (stands_sole h hnames hk hm)
  unfold readKnown
  split
  · exact stands_reference .direct hm
  · exact stands_reference .recursive hm
  · exact stands_reference .dynamic hm
  · exact stands_readType hm
  · exact .readItems fun xs _ => hsole rfl rfl (by decide) hm
  · exact hsole rfl rfl (by decide) hm
  · exact stands_readBound .minimum (by decide) (by decide) hm
  · exact stands_readBound .maximum (by decide) (by decide) hm
  · exact .readNumber fun n => hsole rfl rfl (by decide) hm
  · exact .readNumber fun n => hsole rfl rfl (by decide) hm
  · exact .readNumber fun n => hsole rfl rfl (by decide) hm
  · exact stands_readPattern hm
  · exact stands_readFormat hm
  · exact .map fun ns _ => hsole rfl rfl (by decide) hm
  · exact stands_readUniqueItems hm
  · exact stands_readItemsKeyword hm
  · exact stands_readList (by decide) hm (fun _ => rfl) (fun _ => rfl) nofun nofun
  · exact stands_readAdditionalItems hm
  · exact stands_readContains hm
  · split
    · exact .none
    · exact .readMembers fun ns hns => .some (stands_parts (sole_name (by decide) hm)
        (isUnder_namedParts (by decide) (hns ▸ hm)) nofun nofun)
  · split
    · exact .none
    · refine .map fun ps hps => .some (stands_parts (sole_name (by decide) hm) ?_ nofun nofun)
      unfold readPatterns at hps
      split at hps
      · exact isUnder_patternParts hm hps
      · cases hps
  · exact stands_readAdditionalProperties hm
  · exact stands_readPropertyNames hm
  · exact stands_readDependencies (by decide) hm
  · exact stands_readDependencies (by decide) hm
  · exact stands_readDependencies (by decide) hm
  · exact stands_readList (by decide) hm (fun _ => rfl) (fun _ => rfl) nofun nofun
  · exact .readItems fun xs _ => hsole rfl rfl (by decide) hm
  · exact .readItems fun xs _ => hsole rfl rfl (by decide) hm
  · exact hsole rfl rfl (by decide) hm
  · exact stands_readCondition hm
  · exact stands_readEncoding hm
  · exact .readText fun s _ => stands_readMediaType hm s
  · exact hsole rfl rfl (by decide) hm
  · exact hsole rfl rfl (by decide) hm
  · split
    · next kind hkind =>
      have hk := keyword_of_ofKeyword? hkind
      exact .map fun n _ => hsole rfl rfl (size_keyword_mem kind) (hk ▸ hm)
    · exact .none

end Keyword

namespace Dialect

variable {d : Dialect} {ms : Members} {kw : Keyword}

theorem mem_of_mem_entries {m : String × Json} (h : m ∈ d.entries ms) : m ∈ ms := by
  unfold entries at h
  split at h
  · exact h
  · split at h
    · next v hv =>
      rw [List.mem_singleton.1 h]
      exact Members.mem_of_get? hv
    · exact h

/-- Whatever keyword of an object says something stands in it. -/
theorem stands_of_mem_keywords (h : kw ∈ d.keywords ms) : Keyword.Stands ms kw := by
  obtain ⟨m, hm, hread⟩ := List.mem_filterMap.1 h
  split at hread
  · next k hk =>
    rw [hread] at hk
    unfold Keyword.read at hk
    split at hk
    · exact Keyword.stands_readKnown (mem_of_mem_entries hm) kw hk
    · cases hk
  · cases hread

end Dialect
end MessageContract
