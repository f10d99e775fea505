import MessageContract.Proofs.Schema.Accepted
import MessageContract.Proofs.Schema.Evaluation.Record

/-!
# The keyword of a record

The keyword of a record is the last step of the path at which a violation is told. That is the
keyword which is violated, if the last step is one: what fails in a schema object does, but a schema
that is false may stand under a name or an index, and then the record has that
(`CompiledSchema.tells_keyword`).
-/

namespace MessageContract

open Evaluation

variable {k n : String} {steps : List Step} {failure : Failure} {v : Violation}

/-! ## Keywords as steps -/

/-- A step as it stands in a pointer. -/
def Evaluation.Step.segment (s : Step) : String := String.ofList (Pointer.escape s.text.toList)

theorem segment_eq_iff_text (hk : k ∈ Keyword.vocabulary) (s : Step) :
    s.segment = k ↔ s.text = k := by
  have hplain : ∀ k ∈ Keyword.vocabulary, Pointer.escape k.toList = k.toList := by decide
  rw [Step.segment, ← String.toList_inj, String.toList_ofList]
  constructor
  · intro h
    have htext : s.text.toList = k.toList :=
      calc s.text.toList = Pointer.unescape (Pointer.escape s.text.toList) :=
            (Pointer.unescape_escape _).symm
        _ = Pointer.unescape (Pointer.escape k.toList) := by rw [h, hplain k hk]
        _ = k.toList := Pointer.unescape_escape _
    exact String.toList_inj.1 htext
  · rintro rfl
    exact hplain _ hk

/-- No index is a keyword. -/
theorem toString_ne_of_mem_vocabulary (hk : k ∈ Keyword.vocabulary) (i : Nat) :
    toString i ≠ k := by
  have hname : ∀ k ∈ Keyword.vocabulary, Pointer.index? k.toList = none := by decide
  rintro rfl
  have hindex := hname _ hk
  rw [Pointer.index?_toString] at hindex
  cases hindex

/-- No keyword needs an escape, so a step that looks like it is the keyword or a name. -/
theorem segment_eq_iff (hk : k ∈ Keyword.vocabulary) (s : Step) :
    s.segment = k ↔ s = .keyword k ∨ s = .name k := by
  rw [segment_eq_iff_text hk]
  cases s with
  | keyword n => simp [Step.text]
  | name n => simp [Step.text]
  | index i => exact iff_of_false (toString_ne_of_mem_vocabulary hk i) (by simp)

theorem lastStep_of_getLast? {s : Step} (h : steps.getLast? = some s) :
    Violation.lastStep (Violation.pointerOf (steps.map Step.text)) = s.segment := by
  obtain ⟨before, rfl⟩ := List.getLast?_eq_some_iff.1 h
  rw [List.map_append, List.map_singleton, Violation.lastStep_pointerOf]
  rfl

theorem lastStep_eq_iff (hk : k ∈ Keyword.vocabulary) (steps : List Step) :
    Violation.lastStep (Violation.pointerOf (steps.map Step.text)) = k ↔
      steps.getLast? = some (.keyword k) ∨ steps.getLast? = some (.name k) := by
  cases hlast : steps.getLast? with
  | none =>
    rw [List.getLast?_eq_none_iff.1 hlast, List.map_nil, Violation.lastStep_nil]
    refine iff_of_false ?_ (by simp)
    rintro rfl
    exact absurd hk (by decide)
  | some s =>
    rw [lastStep_of_getLast? hlast, segment_eq_iff hk]
    simp

/-! ## Where the keyword is told -/

/-- The keyword of a record beside the steps to the failure that it is about. -/
structure TellsKeyword (schema : Json) (steps : List Step) (failure : Failure) (v : Violation)
    (record : Record) : Prop where
  /-- It is the last step, if the violation is told where it is. -/
  last : v.schemaPath = steps.map Step.text →
    record.keyword = ((steps.getLast?).map Step.segment).getD ""
  /-- The violated keyword, if the last step is that keyword, or a name that is spelled like it. -/
  violated : ∀ k, violated? steps = some k → k ∈ Keyword.vocabulary ∧
    (record.keyword = k ↔ v.schemaPath = steps.map Step.text ∧
      (steps.getLast? = some (.keyword k) ∨ steps.getLast? = some (.name k)))
  /-- Only a schema that is false as a whole violates no keyword. -/
  whole : violated? steps = none → steps = [] ∧ schema = .bool false
  /-- What fails in a schema object is a keyword of it, and the last step. -/
  own : ∀ ms kw, failure = .keyword ms kw →
    ∃ k ∈ kw.names, k ∈ ms.map (·.1) ∧ steps.getLast? = some (.keyword k)
  /-- Violations are told where they are, but for two keywords. -/
  place : v.schemaPath = steps.map Step.text ∨
    (∃ ms s most, failure = .keyword ms (.contains s none (some most))) ∨
    ∃ ms encoding mediaType, failure = .keyword ms (.encodedContent encoding mediaType)

/-- What is told elsewhere looks like another keyword, or like none. -/
theorem lastStep_of_told (h : Told [] steps failure v) :
    v.schemaPath = steps.map Step.text ∨
      (violated? steps = some "contains" ∧
        Violation.lastStep (Violation.pointerOf v.schemaPath) = "maxContains") ∨
      Violation.lastStep (Violation.pointerOf v.schemaPath) = "" := by
  cases h with
  | inPlace told => exact .inl told
  | asTooMany before counts violated told =>
    refine .inr (.inl ⟨?_, ?_⟩)
    · rw [violated, violated?_append]
      rfl
    · rw [told, Violation.lastStep_pointerOf]
      decide
  | nowhere before decodes violated told =>
    refine .inr (.inr ?_)
    rw [told, Violation.lastStep_nil]

/-- The last name tells the violated keyword if the violation is told where it is, and the last step
is that keyword or a name that is spelled like it. -/
theorem lastStep_eq_violated_iff (htold : Told [] steps failure v) (hk : k ∈ Keyword.vocabulary)
    (hviolated : violated? steps = some k) :
    Violation.lastStep (Violation.pointerOf v.schemaPath) = k ↔
      v.schemaPath = steps.map Step.text ∧
        (steps.getLast? = some (.keyword k) ∨ steps.getLast? = some (.name k)) := by
  by_cases hplace : v.schemaPath = steps.map Step.text
  · rw [hplace, lastStep_eq_iff hk]
    exact (and_iff_right rfl).symm
  · refine iff_of_false ?_ fun hboth => hplace hboth.1
    obtain hin | ⟨hcontains, hmost⟩ | hempty := lastStep_of_told htold
    · exact absurd hin hplace
    · rw [hmost, Option.some.inj (hviolated.symm.trans hcontains)]
      decide
    · rw [hempty]
      rintro rfl
      exact absurd hk (by decide)

/-- For every payload schema that compiles, every payload and every record. -/
theorem CompiledSchema.tells_keyword {payload document x : Json} {c : CompiledSchema}
    {record : Record} (h : compileSchema payload document = .ok c)
    (hrecord : record ∈ c.records payload x) :
    ∃ steps failure v, c.Finds x steps failure v ∧ record = v.record payload ∧
      TellsKeyword payload steps failure v record := by
  obtain ⟨hschema, hpath⟩ := of_compileSchema h
  obtain ⟨steps, failure, v, hfinds, rfl⟩ := exists_finds hrecord
  have htold : Told [] steps failure v := hpath ▸ hfinds.told
  have hkeyword : (v.record payload).keyword =
      Violation.lastStep (Violation.pointerOf v.schemaPath) := rfl
  refine ⟨steps, failure, v, hfinds, rfl, ?last, ?violated, ?whole, ?own, ?place⟩
  case last =>
    intro hplace
    rw [hkeyword, hplace]
    cases hlast : steps.getLast? with
    | none =>
      rw [List.getLast?_eq_none_iff.1 hlast]
      rfl
    | some s => exact lastStep_of_getLast? hlast
  case violated =>
    intro k hk
    obtain ⟨rfl, -⟩ | ⟨k', hk', hends⟩ := hfinds.ends
    · cases hk
    · obtain rfl := Option.some.inj (hends.violated?_eq.symm.trans hk)
      exact ⟨hk', lastStep_eq_violated_iff htold hk' hk⟩
  case whole =>
    intro hnone
    obtain ⟨hsteps, hfalse⟩ | ⟨k, -, hends⟩ := hfinds.ends
    · refine ⟨hsteps, ?_⟩
      rw [hschema] at hfalse
      cases payload with
      | bool b => exact hfalse
      | _ => cases hfalse
    · rw [hends.violated?_eq] at hnone
      cases hnone
  case own =>
    rintro ms kw rfl
    obtain ⟨before, k, hk, hmem, rfl⟩ := hfinds.own
    exact ⟨k, hk, hmem, by simp⟩
  case place =>
    cases htold with
    | inPlace told => exact .inl told
    | asTooMany _ counts _ _ => exact .inr (.inl ⟨_, _, _, counts⟩)
    | nowhere _ decodes _ _ => exact .inr (.inr ⟨_, _, _, decodes⟩)

/-- A text where an integer is asked for. -/
theorem CompiledSchema.tells_keyword_integer :
    let payload : Json := .obj [("type", .str "integer")]
    ∃ c record, compileSchema payload .null = .ok c ∧ record ∈ c.records payload (.str "a") ∧
      record.keyword = "type" ∧ ∃ steps failure v, c.Finds (.str "a") steps failure v ∧
        record = v.record payload ∧ TellsKeyword payload steps failure v record := by
  intro payload
  obtain ⟨c, hc, hrecords⟩ := compileSchema_of_accepts payload (.str "a")
    [⟨.type [.integer], ⟨.str "a", []⟩, ["type"]⟩] rfl (.leaf rfl rfl rfl)
    (by decide +kernel) (fun _ _ _ => rfl) (fun _ _ _ => rfl) .null
  have hrecord : ⟨"", "/type", "type", "must be integer"⟩ ∈ c.records payload (.str "a") := by
    rw [hrecords]
    decide +kernel
  exact ⟨c, _, hc, hrecord, rfl, tells_keyword hc hrecord⟩

/-- The record of a property whose schema is false has the name of the property. -/
theorem CompiledSchema.not_keyword_mem_vocabulary :
    ¬ ∀ payload document x c record, compileSchema payload document = .ok c →
      record ∈ c.records payload x → payload ≠ .bool false →
      record.keyword ∈ Keyword.vocabulary := by
  intro hkeyword
  let payload : Json := .obj [("properties", .obj [("x", .bool false)])]
  let x : Json := .obj [("x", .num (.int 1))]
  obtain ⟨c, hc, hrecords⟩ := compileSchema_of_accepts payload x
    [⟨.falseSchema, ⟨.num (.int 1), ["x"]⟩, ["properties", "x"]⟩] rfl
    (.intro rfl rfl (List.forall_mem_singleton.2 (.bool false)))
    (by decide +kernel) (fun _ _ _ => rfl) (fun _ _ _ => rfl) .null
  have hrecord : ⟨"/x", "/properties/x", "x", "boolean schema is false"⟩ ∈ c.records payload x := by
    rw [hrecords]
    decide +kernel
  exact absurd (hkeyword payload .null x c _ hc hrecord nofun) (by decide)

end MessageContract
