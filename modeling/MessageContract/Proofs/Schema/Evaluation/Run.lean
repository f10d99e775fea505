import MessageContract.Proofs.Schema.Evaluation.Failure
import MessageContract.Proofs.Schema.Rebase.Acceptance

/-!
# How an evaluation comes to a violation

The evaluation of a schema goes from schema to schema, into keywords and through references, until
something fails (`Evaluation.Finds`). Every violation is found in this way
(`Evaluation.exists_finds`), and it is told at the steps that lead to what fails, with two
exceptions (`Evaluation.Finds.told`). The last keyword on the way is the one that is violated.
-/

namespace MessageContract.Evaluation

open Keyword (Under Fails)

/-- What fails: a schema that is false, or a keyword of a schema object. -/
inductive Failure
  | refusal
  | keyword (ms : Members) (kw : Keyword)

/-- The evaluation of a schema at a value comes to a failure by some steps, which is a violation. -/
inductive Finds (r : Resources) :
    Nat → Scope → Json → Spot → List Step → Failure → Violation → Prop
  | refuses {fuel : Nat} {scope : Scope} {spot : Spot} :
      Finds r (fuel + 1) scope (.bool false) spot [] .refusal ⟨.falseSchema, spot, scope.path⟩
  | fails {fuel : Nat} {scope : Scope} {ms : Members} {spot : Spot} {kw : Keyword}
      {steps : List Step} {v : Violation} (keyword : kw ∈ scope.dialect.keywords ms)
      (failure : Fails (r.checking fuel scope ms) scope.path spot kw steps v) :
      Finds r (fuel + 1) scope (.obj ms) spot steps (.keyword ms kw) v
  | inside {fuel : Nat} {scope : Scope} {ms : Members} {spot s : Spot} {kw : Keyword}
      {p : Keyword.Part} {first rest : List Step} {failure : Failure} {v : Violation}
      (keyword : kw ∈ scope.dialect.keywords ms) (part : p ∈ kw.handsOn)
      (path : p.path = first.map Step.text) (under : Under ms first p.schema)
      (enters : spot.Enters s)
      (found : Finds r fuel (scope.intoAnyway p) p.schema s rest failure v) :
      Finds r (fuel + 1) scope (.obj ms) spot (first ++ rest) failure v
  /-- A name in an object violates the schema for names, and the object is told. -/
  | named {fuel : Nat} {scope : Scope} {ms ns : Members} {spot : Spot} {schema : Json}
      {m : String × Json} {rest : List Step} {failure : Failure} {v : Violation}
      (keyword : .propertyNames schema ∈ scope.dialect.keywords ms)
      (object : spot.value = .obj ns) (member : m ∈ ns)
      (found : Finds r fuel (scope.intoAnyway ⟨["propertyNames"], schema⟩) schema
        ⟨.str m.1, spot.path⟩ rest failure v) :
      Finds r (fuel + 1) scope (.obj ms) spot (.keyword "propertyNames" :: rest) failure
        ⟨.propertyName m.1 v.cause, spot, v.schemaPath⟩
  | follows {fuel : Nat} {scope inner : Scope} {ms : Members} {spot : Spot} {kind : ReferenceKind}
      {target : String} {schema : Json} {rest : List Step} {failure : Failure} {v : Violation}
      (keyword : .reference kind target ∈ scope.dialect.keywords ms)
      (leads : r.resolve scope kind target = .ok (inner, schema))
      (found : Finds r fuel inner schema spot rest failure v) :
      Finds r (fuel + 1) scope (.obj ms) spot (.keyword kind.keyword :: rest) failure v

variable {r : Resources} {fuel : Nat} {scope : Scope} {schema : Json} {spot : Spot}
  {steps : List Step} {failure : Failure} {v : Violation} {ms : Members} {kw : Keyword}
  {k : String}

/-! ## Every violation is found -/

/-- If the schemas in an object and behind its references find what they say, so does the object. -/
theorem exists_finds_obj
    (ih : ∀ {scope schema spot v}, v ∈ r.violations fuel scope schema spot →
      ∃ steps failure, Finds r fuel scope schema spot steps failure v)
    (hkw : kw ∈ scope.dialect.keywords ms)
    (h : Keyword.Comes (r.checking fuel scope ms) scope.path spot kw v) :
    ∃ steps failure, Finds r (fuel + 1) scope (.obj ms) spot steps failure v := by
  have hstands := Dialect.stands_of_mem_keywords hkw
  cases h with
  | fails hfails => exact ⟨_, _, .fails hkw hfails⟩
  | inside part enters found =>
    obtain ⟨first, hpath, hunder⟩ := hstands.parts _ part
    obtain ⟨rest, failure, hrest⟩ := ih found
    exact ⟨_, _, .inside hkw part hpath hunder enters hrest⟩
  | named keyword object member found told =>
    subst keyword told
    obtain ⟨rest, failure, hrest⟩ := ih found
    exact ⟨_, _, .named hkw object member hrest⟩
  | @follows kind target keyword found =>
    subst keyword
    simp only [Resources.checking] at found
    split at found
    · next inner schema hleads =>
      split at found
      · cases found
      · obtain ⟨rest, failure, hrest⟩ := ih found
        exact ⟨_, _, .follows hkw hleads hrest⟩
    · cases found

/-- Whatever an evaluation says it has found on the way. -/
theorem exists_finds (h : v ∈ r.violations fuel scope schema spot) :
    ∃ steps failure, Finds r fuel scope schema spot steps failure v := by
  induction fuel generalizing scope schema spot v with
  | zero =>
    simp only [Resources.violations] at h
    cases h
  | succ fuel ih =>
    cases schema with
    | obj ms =>
      rw [Resources.violations_obj] at h
      obtain ⟨kw, hkw, hv⟩ := List.mem_flatMap.1 h
      exact exists_finds_obj ih hkw (Keyword.comes_of_mem_violations hv)
    | bool b =>
      cases b with
      | true =>
        simp only [Resources.violations] at h
        cases h
      | false =>
        simp only [Resources.violations, List.mem_singleton] at h
        subst h
        exact ⟨_, _, .refuses⟩
    | _ =>
      simp only [Resources.violations] at h
      cases h

/-! ## Where it is told -/

/-- The steps by which a violation is told. -/
inductive Told (path : List String) (steps : List Step) (failure : Failure) (v : Violation) : Prop
  | inPlace (told : v.schemaPath = path ++ steps.map Step.text)
  | asTooMany {ms : Members} {s : Json} {most : Nat} (before : List Step)
      (counts : failure = .keyword ms (.contains s none (some most)))
      (violated : steps = before ++ [.keyword "contains"])
      (told : v.schemaPath = path ++ before.map Step.text ++ ["maxContains"])
  | nowhere {ms : Members} {encoding mediaType : String} (before : List Step)
      (decodes : failure = .keyword ms (.encodedContent encoding mediaType))
      (violated : steps = before ++ [.keyword "contentMediaType"]) (told : v.schemaPath = [])

theorem told_of_fails {inner : Inner} {path : List String} (h : Fails inner path spot kw steps v)
    (ms : Members) : Told path steps (.keyword ms kw) v := by
  cases h with
  | containsNone => exact .asTooMany [] rfl rfl (by simp)
  | encodedText => exact .nowhere [] rfl rfl rfl
  | _ => exact .inPlace rfl

theorem path_intoAnyway (scope : Scope) (p : Keyword.Part) :
    (scope.intoAnyway p).path = scope.path ++ p.path := by
  cases h : scope.into p with
  | ok inner =>
    rw [Scope.intoAnyway, h]
    obtain ⟨view, -, hinner⟩ := bind_eq_ok h
    cases hinner
    rfl
  | error e =>
    rw [Scope.intoAnyway, h]

theorem path_of_resolve {inner : Scope} {kind : ReferenceKind} {target : String}
    (h : r.resolve scope kind target = .ok (inner, schema)) :
    inner.path = scope.path ++ [kind.keyword] := by
  unfold Resources.resolve at h
  cases kind <;>
  · obtain ⟨⟨view, resource⟩, -, hinner⟩ := bind_eq_ok h
    cases hinner
    rfl

/-- What is told behind some steps is told behind the steps that lead there. -/
theorem Told.behind (steps : List Step) {path : List String} {rest : List Step} {w : Violation}
    (h : Told (path ++ steps.map Step.text) rest failure v)
    (hpath : w.schemaPath = v.schemaPath) : Told path (steps ++ rest) failure w := by
  cases h with
  | inPlace told => exact .inPlace (by rw [hpath, told, List.map_append, List.append_assoc])
  | asTooMany before counts violated told =>
    refine .asTooMany (steps ++ before) counts (by rw [violated, List.append_assoc]) ?_
    rw [hpath, told, List.map_append]
    simp only [List.append_assoc]
  | nowhere before decodes violated told =>
    exact .nowhere (steps ++ before) decodes (by rw [violated, List.append_assoc])
      (hpath.trans told)

theorem Finds.told (h : Finds r fuel scope schema spot steps failure v) :
    Told scope.path steps failure v := by
  induction h with
  | refuses => exact .inPlace (by simp)
  | fails keyword failure => exact told_of_fails failure _
  | @inside _ _ _ _ _ _ _ first _ _ _ keyword part path under enters found ih =>
    rw [path_intoAnyway, path] at ih
    exact ih.behind first rfl
  | named keyword object member found ih =>
    rw [path_intoAnyway] at ih
    exact ih.behind [.keyword "propertyNames"] rfl
  | @follows _ _ _ _ _ kind _ _ _ _ _ keyword leads found ih =>
    rw [path_of_resolve leads] at ih
    exact ih.behind [.keyword kind.keyword] rfl

/-! ## The keyword that is violated -/

/-- The last keyword among the steps. -/
def violated? (steps : List Step) : Option String :=
  steps.reverse.findSome? fun
    | .keyword k => some k
    | _ => none

theorem violated?_append (before steps : List Step) :
    violated? (before ++ steps) = (violated? steps).or (violated? before) := by
  rw [violated?, List.reverse_append, List.findSome?_append]
  rfl

/-- A keyword fails under one of its names. -/
theorem exists_name_of_fails {inner : Inner} {path : List String}
    (h : Fails inner path spot kw steps v) :
    ∃ before, ∃ k ∈ kw.names, steps = before ++ [.keyword k] := by
  cases h <;> exact ⟨_, _, by simp [Keyword.names], List.dropLast_append_getLast? _ rfl |>.symm⟩

/-- The steps end at a keyword, or at a name or an index under it. -/
inductive EndsAt (k : String) : List Step → Prop
  | keyword (before : List Step) : EndsAt k (before ++ [.keyword k])
  | name (before : List Step) (n : String) : EndsAt k (before ++ [.keyword k, .name n])
  | index (before : List Step) (i : Nat) : EndsAt k (before ++ [.keyword k, .index i])

theorem EndsAt.behind (h : EndsAt k steps) (before : List Step) : EndsAt k (before ++ steps) := by
  cases h with
  | keyword between =>
    rw [← List.append_assoc]
    exact .keyword _
  | name between n =>
    rw [← List.append_assoc]
    exact .name _ n
  | index between i =>
    rw [← List.append_assoc]
    exact .index _ i

theorem EndsAt.violated?_eq (h : EndsAt k steps) : violated? steps = some k := by
  cases h <;> simp [violated?]

theorem endsAt_of_under {x : Json} (h : Under ms steps x) :
    ∃ k ∈ Keyword.vocabulary, EndsAt k steps := by
  cases h with
  | value known member => exact ⟨_, Keyword.mem_vocabulary_of_applicator known, .keyword []⟩
  | item known member item => exact ⟨_, Keyword.mem_vocabulary_of_applicator known, .index [] _⟩
  | entry known member entry => exact ⟨_, Keyword.mem_vocabulary_of_applicator known, .name [] _⟩

/-- An evaluation without steps refuses a schema that is false, and all others end at a keyword. -/
theorem Finds.ends (h : Finds r fuel scope schema spot steps failure v) :
    (steps = [] ∧ schema = .bool false) ∨ ∃ k ∈ Keyword.vocabulary, EndsAt k steps := by
  have hfirst : ∀ (first : List Step) {rest : List Step} {x : Json},
      (∃ k ∈ Keyword.vocabulary, EndsAt k first) →
      (rest = [] ∧ x = .bool false ∨ ∃ k ∈ Keyword.vocabulary, EndsAt k rest) →
      ∃ k ∈ Keyword.vocabulary, EndsAt k (first ++ rest) := by
    rintro first rest x hfirst (⟨rfl, -⟩ | ⟨k, hk, hrest⟩)
    · rwa [List.append_nil]
    · exact ⟨k, hk, hrest.behind first⟩
  induction h with
  | refuses => exact .inl ⟨rfl, rfl⟩
  | fails keyword failure =>
    obtain ⟨before, k, hk, rfl⟩ := exists_name_of_fails failure
    exact .inr ⟨k, ((Dialect.stands_of_mem_keywords keyword).names k hk).1, .keyword before⟩
  | inside keyword part path under enters found ih =>
    exact .inr (hfirst _ (endsAt_of_under under) ih)
  | named keyword object member found ih =>
    exact .inr (hfirst [.keyword "propertyNames"] ⟨_, by decide, .keyword []⟩ ih)
  | follows keyword leads found ih =>
    have hk := (Dialect.stands_of_mem_keywords keyword).names _ (List.mem_singleton.2 rfl)
    exact .inr (hfirst [.keyword _] ⟨_, hk.1, .keyword []⟩ ih)

/-- A keyword that fails stands in its object, and the last steps lead to what fails of it. -/
theorem Finds.keyword (h : Finds r fuel scope schema spot steps (.keyword ms kw) v) :
    Keyword.Stands ms kw ∧ ∃ inner path s w before last,
      steps = before ++ last ∧ Fails inner path s kw last w := by
  generalize hfailure : Failure.keyword ms kw = failure at h
  induction h with
  | refuses => cases hfailure
  | fails keyword failure =>
    cases hfailure
    exact ⟨Dialect.stands_of_mem_keywords keyword, _, _, _, _, [], _, rfl, failure⟩
  | @inside _ _ _ _ _ _ _ first _ _ _ keyword part path under enters found ih =>
    obtain ⟨hstands, inner, p, s, w, before, last, rfl, hfails⟩ := ih hfailure
    exact ⟨hstands, inner, p, s, w, first ++ before, last, by rw [List.append_assoc], hfails⟩
  | named keyword object member found ih =>
    obtain ⟨hstands, inner, p, s, w, before, last, rfl, hfails⟩ := ih hfailure
    exact ⟨hstands, inner, p, s, w, _ :: before, last, rfl, hfails⟩
  | follows keyword leads found ih =>
    obtain ⟨hstands, inner, p, s, w, before, last, rfl, hfails⟩ := ih hfailure
    exact ⟨hstands, inner, p, s, w, _ :: before, last, rfl, hfails⟩

/-- What fails in a schema object is a keyword of the object. -/
theorem Finds.own (h : Finds r fuel scope schema spot steps (.keyword ms kw) v) :
    ∃ before, ∃ k ∈ kw.names, k ∈ ms.map (·.1) ∧ steps = before ++ [.keyword k] := by
  obtain ⟨hstands, _, _, _, _, before, last, rfl, hfails⟩ := h.keyword
  obtain ⟨between, k, hk, rfl⟩ := exists_name_of_fails hfails
  exact ⟨before ++ between, k, hk, (hstands.names k hk).2, by rw [List.append_assoc]⟩

end MessageContract.Evaluation
