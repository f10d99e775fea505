import MessageContract.Proofs.Except
import MessageContract.Proofs.Schema.Rebase.Check

/-!
# Where the schemas in keywords stand

In a schema object without references, every keyword that keeps its data is settled, and the schemas
in it stand where schemas are looked for (`Keyword.Stems`, shown for what is read by
`Keyword.stems_read` and for the faults and schemas in order by `Keyword.isSought_contents`). So the
keywords of the object after it is rebased are those from before, rebased
(`Dialect.keywords_rebase`).
-/

namespace MessageContract.Keyword

variable {d : Dialect} {ms : Members} {k : String} {v : Json} {kw : Keyword}

/-! ## Keywords that are known -/

theorem mem_schemaKeywords_of_knows (d : Dialect)
    (hk : k ∈ ["additionalItems", "additionalProperties", "contains", "not", "propertyNames",
      "unevaluatedItems", "unevaluatedProperties"]) (h : d.knows k = true) :
    k ∈ d.draft.schemaKeywords := by
  obtain ⟨draft, vs⟩ := d
  simp only [List.mem_cons, List.not_mem_nil, or_false] at hk
  rcases hk with rfl | rfl | rfl | rfl | rfl | rfl | rfl <;> cases draft <;>
    first | (dsimp only; decide) | cases h

theorem schemasUnder_schema {d : Draft} (hk : k ∈ d.schemaKeywords) (v : Json) :
    d.schemasUnder k v = [v] := by
  unfold Draft.schemasUnder
  rw [if_pos (List.contains_iff_mem.2 hk)]

theorem schemasUnder_list (d : Draft) (hk : k ∈ ["allOf", "anyOf", "oneOf"]) (v : Json) :
    d.schemasUnder k v = Draft.listed v := by
  simp only [List.mem_cons, List.not_mem_nil, or_false] at hk
  rcases hk with rfl | rfl | rfl <;> cases d <;> rfl

theorem schemasUnder_map (d : Draft) (hk : k ∈ ["properties", "patternProperties"]) (v : Json) :
    d.schemasUnder k v = Draft.valuesOf v := by
  simp only [List.mem_cons, List.not_mem_nil, or_false] at hk
  rcases hk with rfl | rfl <;> cases d <;> rfl

theorem schemasUnder_prefixItems (d : Dialect) (h : d.knows "prefixItems" = true) (v : Json) :
    d.draft.schemasUnder "prefixItems" v = Draft.listed v := by
  obtain ⟨draft, vs⟩ := d
  cases draft <;> first | rfl | cases h

theorem schemasUnder_dependentSchemas (d : Dialect) (h : d.knows "dependentSchemas" = true)
    (v : Json) : d.draft.schemasUnder "dependentSchemas" v = Draft.valuesOf v := by
  obtain ⟨draft, vs⟩ := d
  cases draft <;> first | rfl | cases h

theorem schemasUnder_dependencies (d : Dialect) (h : d.knows "dependencies" = true)
    (v : Json) : d.draft.schemasUnder "dependencies" v = Draft.valuesOf v := by
  obtain ⟨draft, vs⟩ := d
  cases draft <;> first | rfl | cases h

theorem schemasUnder_items (d : Draft) (hv : ∀ xs, v ≠ .arr xs) :
    d.schemasUnder "items" v = [v] := by
  cases v with
  | arr xs => exact absurd rfl (hv xs)
  | _ => cases d <;> rfl

theorem mem_referenceKeywords_of_knows (d : Dialect)
    (hk : k ∈ ["$ref", "$recursiveRef", "$dynamicRef"]) (h : d.knows k = true) :
    k ∈ d.draft.referenceKeywords := by
  obtain ⟨draft, vs⟩ := d
  simp only [List.mem_cons, List.not_mem_nil, or_false] at hk
  rcases hk with rfl | rfl | rfl <;> cases draft <;>
    first | (dsimp only; decide) | cases h

/-! ## What is read -/

/-- What is read, if it is a keyword, has a property. -/
def Yields (P : Keyword → Prop) (x : Read) : Prop := ∀ kw, x = .ok (some kw) → P kw

namespace Yields

variable {P Q : Keyword → Prop} {x : Read}

theorem some (h : P kw) : Yields P (.ok (some kw)) := by
  intro kw' heq
  rwa [← Option.some.inj (Except.ok.inj heq)]

theorem none : Yields P (.ok none) := by
  intro kw heq
  cases heq

theorem error (e : KeywordError) : Yields P (.error e) := by
  intro kw heq
  cases heq

theorem mono (h : Yields P x) (hmono : ∀ kw, P kw → Q kw) : Yields Q x :=
  fun kw heq => hmono kw (h kw heq)

theorem bind {α : Type} {y : Except KeywordError α} {f : α → Read}
    (h : ∀ a, y = .ok a → Yields P (f a)) : Yields P (y >>= f) := by
  cases y with
  | error e => exact error e
  | ok a => exact h a rfl

theorem map {α : Type} {y : Except KeywordError α} {f : α → Option Keyword}
    (h : ∀ a, y = .ok a → Yields P (.ok (f a))) : Yields P (y.map f) := by
  cases y with
  | error e => exact error e
  | ok a => exact h a rfl

theorem readText {f : String → Read} (h : ∀ s, v = .str s → Yields P (f s)) :
    Yields P (Keyword.readText v f) := by
  cases v with
  | str s => exact h s rfl
  | _ => exact error _

theorem readNumber {f : Number → Read} (h : ∀ n, Yields P (f n)) :
    Yields P (Keyword.readNumber v f) := by
  cases v with
  | num n => exact h n
  | _ => exact error _

theorem readMembers {f : Members → Read} (h : ∀ ns, v = .obj ns → Yields P (f ns)) :
    Yields P (Keyword.readMembers v f) := by
  cases v with
  | obj ns => exact h ns rfl
  | _ => exact error _

theorem readItems {f : List Json → Read} (h : ∀ xs, v = .arr xs → Yields P (f xs)) :
    Yields P (Keyword.readItems v f) := by
  cases v with
  | arr xs => exact h xs rfl
  | _ => exact error _

end Yields

/-- No reference, no data, and no schemas. -/
structure IsPlain (kw : Keyword) : Prop where
  settled : kw.IsSettled
  parts : kw.parts = []

theorem yields_soleType (d : Dialect) (v : Json) : Yields IsPlain (soleType d v) := by
  refine Yields.readText fun s _ => ?_
  split
  · exact .some ⟨trivial, rfl⟩
  · exact .error _

theorem yields_readType (d : Dialect) (v : Json) : Yields IsPlain (readType d v) := by
  unfold readType
  split
  · exact yields_soleType d _
  · exact yields_soleType d _
  · exact .map fun ts _ => .some ⟨trivial, rfl⟩
  · exact .error _

theorem yields_readBound (d : Dialect) (ms : Members) (kind exclusive : Bound) (v : Json) :
    Yields IsPlain (readBound d ms kind exclusive v) := by
  refine Yields.readNumber fun n => ?_
  split <;> exact .some ⟨trivial, rfl⟩

theorem yields_readPattern (v : Json) : Yields IsPlain (readPattern v) := by
  refine Yields.readText fun s _ => ?_
  split
  · exact .some ⟨trivial, rfl⟩
  · exact .error _

theorem yields_readFormat (d : Dialect) (v : Json) : Yields IsPlain (readFormat d v) := by
  refine Yields.readText fun s _ => ?_
  cases (Format.ofName? s).filter fun f => d.draft.isSince (formatSince f) with
  | none => exact .none
  | some f => exact .some ⟨trivial, rfl⟩

theorem yields_readUniqueItems (v : Json) : Yields IsPlain (readUniqueItems v) := by
  unfold readUniqueItems
  split
  · exact .some ⟨trivial, rfl⟩
  · exact .none

theorem yields_readSize (d : Dialect) (kind : Size) (v : Json) :
    Yields IsPlain (readSize d kind v) :=
  .map fun _ _ => .some ⟨trivial, rfl⟩

theorem yields_readMediaType (ms : Members) (name : String) :
    Yields IsPlain (readMediaType ms name) := by
  unfold readMediaType
  split
  · exact .none
  · split
    · exact .some ⟨trivial, rfl⟩
    · refine Yields.readText fun s _ => ?_
      split
      · exact .some ⟨trivial, rfl⟩
      · exact .none

theorem yields_readEncoding (ms : Members) (v : Json) :
    Yields IsPlain (readEncoding ms v) := by
  unfold readEncoding
  split
  · exact .none
  · refine Yields.readText fun s _ => ?_
    split
    · exact .some ⟨trivial, rfl⟩
    · exact .none

/-! ## Where the schemas stand -/

/-- A keyword is no reference, its data stay, and its schemas are looked for in the object. -/
structure Stems (d : Draft) (ms : Members) (kw : Keyword) : Prop where
  settled : kw.IsSettled
  parts : ∀ p ∈ kw.parts, ∃ m ∈ ms, p.schema ∈ d.schemasAt m.1 m.2

theorem IsPlain.stems (h : kw.IsPlain) (d : Draft) (ms : Members) : Stems d ms kw :=
  ⟨h.settled, by rw [h.parts]; simp⟩

section

variable {draft : Draft}

theorem mem_schemasAt {x : Json} (h : x ∈ draft.schemasUnder k v) : x ∈ draft.schemasAt k v :=
  List.mem_append_left _ h

theorem forall_mem_numbered {keyword : String} {xs : List Json} {P : Json → Prop}
    (h : ∀ x ∈ xs, P x) : ∀ p ∈ numbered keyword xs, P p.schema := by
  intro p hp
  obtain ⟨x, hx, rfl⟩ := List.mem_map.1 hp
  exact h x.1 (List.fst_mem_of_mem_zipIdx hx)

theorem forall_mem_namedParts {keyword : String} {ns : Members} {P : Json → Prop}
    (h : ∀ m ∈ ns, P m.2) : ∀ p ∈ namedParts keyword ns, P p.schema := by
  intro p hp
  obtain ⟨m, hm, rfl⟩ := List.mem_map.1 hp
  exact h m hm

theorem forall_mem_patternParts {ps : List (Pattern × Json)} {P : Json → Prop}
    (h : ∀ p ∈ ps, P p.2) : ∀ p ∈ patternParts ps, P p.schema := by
  intro p hp
  obtain ⟨q, hq, rfl⟩ := List.mem_map.1 hp
  exact h q hq

theorem forall_mem_optional {keyword : String} {s : Option Json} {P : Json → Prop}
    (h : ∀ x, s = some x → P x) : ∀ p ∈ optional keyword s, P p.schema := by
  intro p hp
  cases s with
  | none => cases hp
  | some x =>
    rw [List.mem_singleton.1 hp]
    exact h x rfl

end

theorem exists_of_mapM {α β ε : Type} {f : α → Except ε β} {xs : List α} {ys : List β}
    (h : xs.mapM f = .ok ys) : ∀ y ∈ ys, ∃ x ∈ xs, f x = .ok y := by
  induction xs generalizing ys with
  | nil =>
    cases h
    simp
  | cons x xs ih =>
    rw [List.mapM_cons] at h
    obtain ⟨y, hy, hrest⟩ := bind_eq_ok h
    obtain ⟨zs, hzs, hcons⟩ := bind_eq_ok hrest
    cases hcons
    refine List.forall_mem_cons.2 ⟨⟨x, List.mem_cons_self, hy⟩, fun z hz => ?_⟩
    obtain ⟨w, hw, hwz⟩ := ih hzs z hz
    exact ⟨w, List.mem_cons_of_mem _ hw, hwz⟩

theorem exists_of_mapM_readPatternEntry {ns : Members} {ps : List (Pattern × Json)}
    (h : ns.mapM readPatternEntry = .ok ps) : ∀ p ∈ ps, p.2 ∈ Draft.valuesOf (.obj ns) := by
  intro p hp
  obtain ⟨m, hm, hread⟩ := exists_of_mapM h p hp
  unfold readPatternEntry at hread
  split at hread
  · cases hread
    exact List.mem_map.2 ⟨m, hm, rfl⟩
  · cases hread

theorem of_readDependency {keyword : String} {s : Json}
    (h : readDependency keyword v = .ok (.schema s)) : s = v ∧ keyword ≠ "dependentRequired" := by
  unfold readDependency at h
  split at h
  · obtain ⟨_, _, heq⟩ := map_eq_ok h
    cases heq
  · obtain ⟨_, _, heq⟩ := map_eq_ok h
    cases heq
  · next hne _ =>
    cases h
    exact ⟨rfl, hne⟩

section

variable {draft : Draft}

/-- What is looked for under a keyword that is there. -/
abbrev IsSought (draft : Draft) (ms : Members) (x : Json) : Prop :=
  ∃ m ∈ ms, x ∈ draft.schemasAt m.1 m.2

theorem isSought_map (hk : k ∈ ["properties", "patternProperties"]) {ns : Members}
    (hns : (k, .obj ns) ∈ ms) {x : Json} (hx : x ∈ Draft.valuesOf (.obj ns)) :
    IsSought draft ms x :=
  ⟨_, hns, mem_schemasAt (by rwa [schemasUnder_map draft hk])⟩

theorem isSought_condition (hk : k ∈ ["if", "then", "else"]) (hm : (k, v) ∈ ms) :
    IsSought draft ms v := by
  refine ⟨_, hm, List.mem_append_right _ ?_⟩
  rw [if_neg (by rintro rfl; revert hk; decide), if_pos hk]
  exact List.mem_singleton.2 rfl

theorem stems_readItemsKeyword (hm : ("items", v) ∈ ms) :
    Yields (Stems draft ms) (readItemsKeyword ms v) := by
  have hone : (∀ xs, v ≠ .arr xs) → IsSought draft ms v := fun hv =>
    ⟨_, hm, mem_schemasAt (by rw [schemasUnder_items draft hv]; exact List.mem_singleton.2 rfl)⟩
  unfold readItemsKeyword
  split
  · next xs =>
    exact .some ⟨trivial, forall_mem_numbered (P := IsSought draft ms) fun x hx =>
      ⟨_, hm, List.mem_append_right _ hx⟩⟩
  · refine .some ⟨trivial, fun p hp => ?_⟩
    rw [List.mem_singleton.1 hp]
    exact hone (by simp)
  · refine .some ⟨trivial, fun p hp => ?_⟩
    rw [List.mem_singleton.1 hp]
    exact hone (by simp)
  · exact .none

theorem stems_readAdditionalItems (hv : IsSought draft ms v) :
    Yields (Stems draft ms) (readAdditionalItems ms v) := by
  have hsome : ∀ allowed, Stems draft ms (.additionalItems allowed (some v)) := fun allowed =>
    ⟨trivial, forall_mem_optional (P := IsSought draft ms) fun x hx => Option.some.inj hx ▸ hv⟩
  have hnone : ∀ allowed, Stems draft ms (.additionalItems allowed none) := fun allowed =>
    ⟨trivial, fun p hp => by cases hp⟩
  have hnever : Stems draft ms (.never "additionalItems") := ⟨trivial, fun p hp => by cases hp⟩
  unfold readAdditionalItems
  split
  all_goals first
    | exact .none
    | exact .error _
    | exact .some hnever
    | exact .some (hnone _)
    | exact .some (hsome _)

theorem stems_readContains (d : Dialect) (hv : IsSought draft ms v) :
    Yields (Stems draft ms) (readContains d ms v) := by
  have hparts : ∀ least most, Stems draft ms (.contains v least most) :=
    fun least most => ⟨trivial, fun p hp => by rwa [List.mem_singleton.1 hp]⟩
  unfold readContains
  split
  · exact .bind fun least _ => .bind fun most _ => .some (hparts least most)
  · exact .some (hparts none none)

theorem stems_members {named : Members} {ps : List (Pattern × Json)} {others : Option Json}
    (hpatterns : ∀ p ∈ ps, IsSought draft ms p.2)
    (hothers : ∀ x, others = some x → IsSought draft ms x) (hnamed : coveredNames ms = .ok named) :
    Stems draft ms (.members named ps others) := by
  refine ⟨trivial, fun p hp => ?_⟩
  rcases List.mem_append.1 hp with hp | hp
  · rcases List.mem_append.1 hp with hp | hp
    · exact forall_mem_patternParts (P := IsSought draft ms) hpatterns p hp
    · refine forall_mem_namedParts (P := IsSought draft ms) (fun m hm => ?_) p hp
      unfold coveredNames at hnamed
      split at hnamed
      · cases hnamed
        cases hm
      · next ns hns =>
        cases hnamed
        exact isSought_map (by decide) (Members.mem_of_get? hns) (List.mem_map.2 ⟨m, hm, rfl⟩)
      · cases hnamed
  · exact forall_mem_optional (P := IsSought draft ms) hothers p hp

theorem stems_readAdditionalProperties (hv : IsSought draft ms v) :
    Yields (Stems draft ms) (readAdditionalProperties ms v) := by
  unfold readAdditionalProperties
  refine .bind fun ps hps => ?_
  have hpatterns : ∀ p ∈ ps, IsSought draft ms p.2 := by
    unfold coveredPatterns at hps
    split at hps
    · cases hps
      simp
    · next ns hns =>
      exact fun p hp => isSought_map (by decide) (Members.mem_of_get? hns)
        (exists_of_mapM_readPatternEntry hps p hp)
    · cases hps
  split
  · exact .none
  · split
    · exact .bind fun named hnamed => .some (stems_members hpatterns (by simp) hnamed)
    · exact .some ⟨trivial, fun p hp => by cases hp⟩
  · exact .bind fun named hnamed =>
      .some (stems_members hpatterns (by rintro x ⟨⟩; exact hv) hnamed)

theorem stems_readPropertyNames (hv : IsSought draft ms v) :
    Yields (Stems draft ms) (readPropertyNames v) := by
  unfold readPropertyNames
  split
  · exact .some ⟨trivial, fun p hp => by rwa [List.mem_singleton.1 hp]⟩
  · exact .some ⟨trivial, fun p hp => by rwa [List.mem_singleton.1 hp]⟩
  · exact .none

theorem stems_readDependencies {keyword : String}
    (hsought : keyword ≠ "dependentRequired" → ∀ ns, v = .obj ns →
      ∀ x ∈ Draft.valuesOf (.obj ns), IsSought draft ms x) :
    Yields (Stems draft ms) (readDependencies keyword v) := by
  refine Yields.readMembers fun ns hns => .bind fun entries hentries => .some ⟨trivial, ?_⟩
  intro p hp
  obtain ⟨⟨name, x⟩, he, hsome⟩ := List.mem_filterMap.1 hp
  cases x with
  | names _ => cases hsome
  | schema s =>
    cases hsome
    obtain ⟨m, hm, hread⟩ := exists_of_mapM hentries _ he
    obtain ⟨dep, hdep, heq⟩ := map_eq_ok hread
    cases heq
    obtain ⟨rfl, hne⟩ := of_readDependency hdep
    exact hsought hne ns hns _ (List.mem_map.2 ⟨m, hm, rfl⟩)

theorem stems_readCondition (hm : ("if", v) ∈ ms) :
    Yields (Stems draft ms) (readCondition ms v) := by
  have hbranch : ∀ keyword ∈ ["if", "then", "else"], ∀ p ∈ optional keyword (ms.get? keyword),
      IsSought draft ms p.schema := fun keyword hk => forall_mem_optional
    (P := IsSought draft ms) fun x hx => isSought_condition hk (Members.mem_of_get? hx)
  unfold readCondition
  split
  · exact .none
  · refine .some ⟨trivial, List.forall_mem_cons.2 ⟨isSought_condition (by decide) hm, ?_⟩⟩
    exact List.forall_mem_append.2 ⟨hbranch "then" (by decide), hbranch "else" (by decide)⟩

theorem stems_readKnown (hm : (k, v) ∈ ms) (hknows : d.knows k = true)
    (href : k ∉ d.draft.referenceKeywords) (hdata : k ∈ ["const", "enum"] → rebase v = v) :
    Yields (Stems d.draft ms) (readKnown d ms k v) := by
  have hplain : ∀ {x : Read}, Yields IsPlain x → Yields (Stems d.draft ms) x :=
    fun h => h.mono fun kw hkw => hkw.stems _ _
  have hnoref : ∀ {x : Read}, k ∈ ["$ref", "$recursiveRef", "$dynamicRef"] →
      Yields (Stems d.draft ms) x :=
    fun hk => absurd (mem_referenceKeywords_of_knows d hk hknows) href
  have hunder : ∀ x ∈ d.draft.schemasUnder k v, IsSought d.draft ms x :=
    fun x hx => ⟨(k, v), hm, mem_schemasAt hx⟩
  have hsole : k ∈ ["additionalItems", "additionalProperties", "contains", "not", "propertyNames",
      "unevaluatedItems", "unevaluatedProperties"] → IsSought d.draft ms v := by
    refine fun hk => hunder v ?_
    rw [schemasUnder_schema (mem_schemaKeywords_of_knows d hk hknows)]
    exact List.mem_singleton.2 rfl
  have hlist : ∀ {f : List Json → Keyword}, (∀ xs, (f xs).IsSettled) →
      (∀ xs, ∃ keyword, (f xs).parts = numbered keyword xs) →
      d.draft.schemasUnder k v = Draft.listed v →
      Yields (Stems d.draft ms) (readItems v fun xs => .ok (some (f xs))) := by
    intro f hsettled hparts heq
    refine Yields.readItems fun xs hxs => .some ⟨hsettled xs, ?_⟩
    obtain ⟨keyword, hkeyword⟩ := hparts xs
    rw [hkeyword]
    refine forall_mem_numbered (P := IsSought d.draft ms) fun x hx => hunder x ?_
    rw [heq, hxs]
    exact hx
  unfold readKnown
  split
  · exact hnoref (by decide)
  · exact hnoref (by decide)
  · exact hnoref (by decide)
  · exact hplain (yields_readType d v)
  · refine Yields.readItems fun xs hxs => .some ⟨?_, fun p hp => by cases hp⟩
    have hsame := hdata (by decide)
    rw [hxs, rebase, rebaseItems_eq] at hsame
    exact Json.arr.inj hsame
  · exact .some ⟨hdata (by decide), fun p hp => by cases hp⟩
  · exact hplain (yields_readBound d ms _ _ v)
  · exact hplain (yields_readBound d ms _ _ v)
  · exact hplain (.readNumber fun n => .some ⟨trivial, rfl⟩)
  · exact hplain (.readNumber fun n => .some ⟨trivial, rfl⟩)
  · exact hplain (.readNumber fun n => .some ⟨trivial, rfl⟩)
  · exact hplain (yields_readPattern v)
  · exact hplain (yields_readFormat d v)
  · exact hplain (.map fun ns _ => .some ⟨trivial, rfl⟩)
  · exact hplain (yields_readUniqueItems v)
  · exact stems_readItemsKeyword hm
  · exact hlist (fun _ => trivial) (fun _ => ⟨_, rfl⟩) (schemasUnder_prefixItems d hknows v)
  · exact stems_readAdditionalItems (hsole (by decide))
  · exact stems_readContains d (hsole (by decide))
  · split
    · exact .none
    · refine Yields.readMembers fun ns hns => .some ⟨trivial, ?_⟩
      exact forall_mem_namedParts (P := IsSought d.draft ms) fun m hmem =>
        isSought_map (by decide) (hns ▸ hm) (List.mem_map.2 ⟨m, hmem, rfl⟩)
  · split
    · exact .none
    · refine .map fun ps hps => .some ⟨trivial, forall_mem_patternParts
        (P := IsSought d.draft ms) fun p hp => ?_⟩
      unfold readPatterns at hps
      split at hps
      · exact isSought_map (by decide) hm (exists_of_mapM_readPatternEntry hps p hp)
      · cases hps
  · exact stems_readAdditionalProperties (hsole (by decide))
  · exact stems_readPropertyNames (hsole (by decide))
  · refine stems_readDependencies fun _ ns hns x hx => hunder x ?_
    rwa [schemasUnder_dependencies d hknows, hns]
  · exact stems_readDependencies fun hne => absurd rfl hne
  · refine stems_readDependencies fun _ ns hns x hx => hunder x ?_
    rwa [schemasUnder_dependentSchemas d hknows, hns]
  · exact hlist (fun _ => trivial) (fun _ => ⟨_, rfl⟩) (schemasUnder_list _ (by decide) v)
  · exact hlist (fun _ => trivial) (fun _ => ⟨_, rfl⟩) (schemasUnder_list _ (by decide) v)
  · exact hlist (fun _ => trivial) (fun _ => ⟨_, rfl⟩) (schemasUnder_list _ (by decide) v)
  · exact .some ⟨trivial, fun p hp => by rw [List.mem_singleton.1 hp]; exact hsole (by decide)⟩
  · exact stems_readCondition hm
  · exact hplain (yields_readEncoding ms v)
  · exact hplain (.readText fun s _ => yields_readMediaType ms s)
  · exact .some ⟨trivial, fun p hp => by rw [List.mem_singleton.1 hp]; exact hsole (by decide)⟩
  · exact .some ⟨trivial, fun p hp => by rw [List.mem_singleton.1 hp]; exact hsole (by decide)⟩
  · split
    · exact hplain (yields_readSize d _ v)
    · exact .none

/-- In a schema that is no reference, a keyword that keeps its data is settled, and schemas are
looked for where those in it stand. -/
theorem stems_read (hm : (k, v) ∈ ms) (href : k ∉ d.draft.referenceKeywords)
    (hdata : k ∈ ["const", "enum"] → rebase v = v) :
    Yields (Stems d.draft ms) (read d ms k v) := by
  unfold read
  split
  · next hknows => exact stems_readKnown hm hknows href hdata
  · exact .none

/-! ## Faults and schemas in order -/

theorem isSought_patternContents {ns : Members} (hns : ("patternProperties", .obj ns) ∈ ms)
    {p : Part} (hp : .ok p ∈ patternContents ns) : IsSought draft ms p.schema := by
  obtain ⟨m, hm, hin⟩ := List.mem_flatMap.1 hp
  refine isSought_map (by decide) hns (List.mem_map.2 ⟨m, hm, ?_⟩)
  split at hin
  · rw [Except.ok.inj (List.mem_singleton.1 hin)]
  · cases List.mem_singleton.1 hin

theorem isSought_coveredContents {others : Option Json}
    (hothers : ∀ x, others = some x → IsSought draft ms x) {p : Part}
    (hp : .ok p ∈ (match coveredNames ms with
      | .error e => [.error e]
      | .ok named => ((Keyword.members named [] others).parts).map .ok : List Content)) :
    IsSought draft ms p.schema := by
  cases hnamed : coveredNames ms with
  | error e =>
    rw [hnamed] at hp
    cases List.mem_singleton.1 hp
  | ok named =>
    rw [hnamed] at hp
    obtain ⟨q, hq, heq⟩ := List.mem_map.1 hp
    rw [← Except.ok.inj heq]
    exact (stems_members (by simp) hothers hnamed).parts q hq

/-- Schemas are looked for where those in a keyword stand. -/
theorem isSought_contents (hm : (k, v) ∈ ms) (href : k ∉ d.draft.referenceKeywords)
    (hdata : k ∈ ["const", "enum"] → rebase v = v) {p : Part} (hp : .ok p ∈ contents d ms k v) :
    IsSought d.draft ms p.schema := by
  have hwhole : .ok p ∈ contentsOf (read d ms k v) → IsSought d.draft ms p.schema := by
    intro hp
    unfold contentsOf at hp
    split at hp
    · cases hp
    · next kw hread =>
      obtain ⟨q, hq, heq⟩ := List.mem_map.1 hp
      rw [← Except.ok.inj heq]
      exact (stems_read hm href hdata kw hread).parts q hq
    · cases List.mem_singleton.1 hp
  unfold contents at hp
  dsimp only at hp
  split at hp
  · cases hp
  · next hnot =>
    have hknows : d.knows k = true := by simpa using hnot
    split at hp
    · split at hp
      · cases hp
      · exact isSought_patternContents hm hp
    · next hns => exact isSought_patternContents (Members.mem_of_get? hns) hp
    · next hns =>
      rcases List.mem_append.1 hp with hp | hp
      · exact isSought_patternContents (Members.mem_of_get? hns) hp
      · refine isSought_coveredContents (fun x hx => ?_) hp
        split at hx
        · cases hx
        · cases hx
          refine ⟨_, hm, mem_schemasAt ?_⟩
          rw [schemasUnder_schema (mem_schemaKeywords_of_knows d (by decide) hknows)]
          exact List.mem_singleton.2 rfl
    · obtain ⟨m, hmem, hin⟩ := List.mem_flatMap.1 hp
      unfold dependencyContent at hin
      split at hin
      · next s hread =>
        rw [Except.ok.inj (List.mem_singleton.1 hin)]
        obtain ⟨rfl, -⟩ := of_readDependency hread
        refine ⟨_, hm, mem_schemasAt ?_⟩
        rw [schemasUnder_dependencies d hknows]
        exact List.mem_map.2 ⟨m, hmem, rfl⟩
      · cases hin
      · cases List.mem_singleton.1 hin
    · exact hwhole hp

end

end MessageContract.Keyword

namespace MessageContract.Dialect

variable {d : Dialect} {ms : Members}

theorem entries_eq (href : "$ref" ∉ ms.map (·.1)) : d.entries ms = ms := by
  rw [entries, Members.get?_eq_none_iff.2 href]
  split <;> rfl

theorem entries_rebase (href : "$ref" ∉ ms.map (·.1)) :
    d.entries (rebaseMembers ms) = rebaseMembers ms := by
  refine entries_eq ?_
  rw [rebaseMembers_eq, List.map_map]
  exact href

/-- What a rebased schema object without references says is what it said before, rebased. -/
theorem keywords_rebase (href : "$ref" ∉ ms.map (·.1)) :
    d.keywords (rebaseMembers ms) = (d.keywords ms).map Keyword.rebased := by
  rw [keywords, keywords, entries_eq href, entries_rebase href]
  nth_rewrite 2 [rebaseMembers_eq]
  rw [List.filterMap_map, List.map_filterMap]
  refine List.filterMap_congr fun m hm => ?_
  have hk : m.1 ≠ "$ref" := fun heq => href (heq ▸ List.mem_map_of_mem hm)
  have hread := Keyword.agree_read d ms hk m.2
  rw [Function.comp_apply, rebaseMember_keyword hk]
  revert hread
  generalize Keyword.read d ms m.1 m.2 = x
  generalize Keyword.read d (rebaseMembers ms) m.1 (rebase m.2) = y
  intro hread
  cases hread with
  | ok h => exact h
  | error e e' => rfl

/-- Every keyword of a schema that is no reference and keeps its data is settled, and schemas are
looked for where those in it stand. -/
theorem stems_of_mem_keywords (href : ∀ k ∈ d.draft.referenceKeywords, k ∉ ms.map (·.1))
    (hdata : ∀ m ∈ ms, m.1 ∈ ["const", "enum"] → rebase m.2 = m.2) {kw : Keyword}
    (hkw : kw ∈ d.keywords ms) : Keyword.Stems d.draft ms kw := by
  rw [keywords, entries_eq (href "$ref" d.draft.mem_referenceKeywords)] at hkw
  obtain ⟨m, hm, hread⟩ := List.mem_filterMap.1 hkw
  refine Keyword.stems_read hm (fun hk => href m.1 hk (List.mem_map_of_mem hm)) (hdata m hm) kw ?_
  split at hread
  · next heq =>
    rw [heq, hread]
  · cases hread

end MessageContract.Dialect
