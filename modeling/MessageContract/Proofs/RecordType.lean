import MessageContract.Proofs.RecordKeyword

/-!
# The types in a message

A message about a type names the types that the schema declares. They are looked up, by the steps
that the evaluation took, in the schema as it is written, so behind a reference nothing is found.
What is found about a name in an object is told in other words. On all other ways the message has
the types that the keyword which failed declares (`CompiledSchema.tells_type`).
-/

namespace MessageContract

open Evaluation

variable {r : Resources} {fuel : Nat} {scope : Scope} {schema : Json} {spot : Spot}
  {steps : List Step} {failure : Failure} {v : Violation} {ms : Members} {c : Cause}

/-! ## Causes -/

/-- What was found about a value, or about a name in it. -/
def Cause.root : Cause → Cause
  | propertyName _ c => c.root
  | c => c

/-- The names in an object are told by what was found about one of them. -/
theorem Cause.exists_message (name : String) (c : Cause) (x : Json) :
    ∃ n, (propertyName name c).message x = c.root.message (.str n) := by
  induction c generalizing name x with
  | propertyName n c ih => exact ih n (.str name)
  | _ => exact ⟨name, rfl⟩

/-- What is said of a false schema, and of a keyword for types. -/
def Evaluation.Failure.cause? : Failure → Option Cause
  | refusal => some .falseSchema
  | keyword _ (.type names _) => some (.type names)
  | _ => none

/-- Whether a step leads to the names in an object. -/
def Evaluation.Step.isNames : Step → Bool
  | .keyword k => k == "propertyNames"
  | _ => false

/-- It is said in another way about names in objects only. -/
theorem Evaluation.Finds.cause (h : Finds r fuel scope schema spot steps failure v)
    (hc : failure.cause? = some c) :
    if steps.any Step.isNames then ∃ name inner, v.cause = .propertyName name inner ∧ inner.root = c
    else v.cause = c := by
  have hroot : c.root = c := by
    unfold Failure.cause? at hc
    split at hc <;> cases hc <;> rfl
  induction h with
  | refuses =>
    cases hc
    rfl
  | @fails _ _ _ _ kw _ _ keyword failure =>
    cases kw with
    | type names strict =>
      cases hc
      cases failure
      rfl
    | _ => cases hc
  | @inside _ _ _ _ _ _ _ first rest _ _ keyword part path under enters found ih =>
    have hfirst : first.any Step.isNames = false :=
      under.any_eq_false (by decide) (fun _ => rfl) (fun _ => rfl)
    rw [List.any_append, hfirst, Bool.false_or]
    exact ih hc
  | @named _ _ _ _ _ _ m rest _ v keyword object member found ih =>
    refine ⟨m.1, v.cause, rfl, ?_⟩
    have hv := ih hc
    split at hv
    · obtain ⟨name, inner, hcause, hinner⟩ := hv
      rw [hcause, Cause.root, hinner]
    · rw [hv, hroot]
  | @follows _ _ _ _ _ kind _ _ rest _ _ keyword leads found ih =>
    have hkind : (Step.keyword kind.keyword).isNames = false := by cases kind <;> rfl
    rw [List.any_cons, hkind, Bool.false_or]
    exact ih hc

/-! ## Messages -/

/-- What is said where one of some types is asked for. -/
def mustBe (names : List TypeName) : String :=
  "must be " ++ String.intercalate "," (names.map TypeName.write)

theorem Violation.declaredTypes_eq {names : List TypeName} {value : Json}
    (h : Keyword.Declares value names) :
    declaredTypes (some value) = String.intercalate "," (names.map TypeName.write) := by
  cases h with
  | one t => simp [declaredTypes]
  | several => simp [declaredTypes, List.filterMap_map, Function.comp_def, Json.asString?]

/-- No types read like the words that stand for types which are not found. -/
theorem Violation.declaredTypes_none_ne (names : List TypeName) :
    declaredTypes none ≠ String.intercalate "," (names.map TypeName.write) := by
  cases names with
  | nil => simp [declaredTypes]
  | cons t names =>
    have hstart : ∀ t : TypeName, ¬ t.write.toList <+: (declaredTypes none).toList := by
      intro t
      cases t <;> decide
    intro heq
    have hsplit : String.intercalate "," ((t :: names).map TypeName.write) =
        t.write ++ String.intercalate "," ("" :: names.map TypeName.write) := by
      rw [← String.intercalate_cons_append, String.append_empty, List.map_cons]
    refine hstart t ?_
    rw [heq, hsplit, String.toList_append]
    exact List.prefix_append _ _

/-- What begins with another character says nothing about types. -/
theorem ne_mustBe_of_head? {s : String} {a : Char} (h : s.toList.head? = some a) (ha : a ≠ 'm')
    (names : List TypeName) : s ≠ mustBe names := by
  rintro rfl
  rw [mustBe, String.toList_append, List.head?_append] at h
  exact ha (Option.some.inj h).symm

theorem head?_toList_append {s t : String} {a : Char} (h : s.toList.head? = some a) :
    (s ++ t).toList.head? = some a := by
  rw [String.toList_append, List.head?_append, h]
  rfl

theorem head?_message_type (names : List TypeName) (n : String) :
    ((Cause.type names).message (.str n)).toList.head? = some '"' :=
  head?_toList_append (s := (Json.str n).write) (by simp [Json.write, Json.quote])

namespace Violation

theorem describe_type {names : List TypeName} (h : v.cause = .type names) :
    v.describe schema = "must be " ++ declaredTypes (schema.at? v.schemaPath) := by
  unfold describe
  rw [h, pointer?_pointerOf]

theorem describe_falseSchema (h : v.cause = .falseSchema) :
    v.describe schema = "boolean schema is false" := by
  unfold describe
  rw [h]

/-- What is found about a name is told as it was found. -/
theorem describe_propertyName (schema : Json) {name : String} (h : v.cause = .propertyName name c) :
    ∃ n, v.describe schema = c.root.message (.str n) := by
  have hdescribe : v.describe schema = v.message := by
    unfold describe
    rw [h]
  rw [hdescribe, message, h]
  exact Cause.exists_message name c _

end Violation

/-! ## Records about types -/

/-- No false schema stands right under the keyword for types. -/
theorem Evaluation.Finds.getLast?_refusal
    (h : Finds r fuel scope schema spot steps .refusal v) :
    steps.getLast? ≠ some (.keyword "type") := by
  have hbehind : ∀ (first : List Step) {rest : List Step}, first.getLast? ≠ some (.keyword "type") →
      rest.getLast? ≠ some (.keyword "type") →
      (first ++ rest).getLast? ≠ some (.keyword "type") := by
    intro first rest hfirst hrest hlast
    rw [List.getLast?_append, Option.or_eq_some_iff] at hlast
    exact hlast.elim hrest fun hnone => hfirst hnone.2
  generalize hfailure : Failure.refusal = failure at h
  induction h with
  | refuses => simp
  | fails => cases hfailure
  | inside keyword part path under enters found ih =>
    have hk : ∀ k ∈ Keyword.applicators, k ≠ "type" := by decide
    refine hbehind _ ?_ (ih hfailure)
    cases under with
    | value known => simp [hk _ known]
    | item => simp
    | entry => simp
  | named keyword object member found ih =>
    exact hbehind [.keyword "propertyNames"] (by decide) (ih hfailure)
  | @follows _ _ _ _ _ kind _ _ _ _ _ keyword leads found ih =>
    refine hbehind [.keyword kind.keyword] ?_ (ih hfailure)
    cases kind <;> decide

/-- A record says what it has to say about the types that a keyword asks for, or about a schema that
is false. -/
inductive TellsType (steps : List Step) (failure : Failure) (record : Record) : Prop
  /-- The types are those that the keyword declares, if and only if the steps neither followed a
  reference nor led to names in objects. -/
  | declared {ms : Members} {names : List TypeName} {strict : Bool} {value : Json}
      (fails : failure = .keyword ms (.type names strict)) (member : ("type", value) ∈ ms)
      (declares : Keyword.Declares value names)
      (types : record.message = mustBe names ↔
        steps.any Step.refers = false ∧ steps.any Step.isNames = false)
      (behind : steps.any Step.refers = true → steps.any Step.isNames = false →
        record.message = "must be of the declared type")
  /-- A schema that is false stands under a name that is spelled like the keyword. -/
  | named (refuses : failure = .refusal) (last : steps.getLast? = some (.name "type"))
      (message : ∀ names, record.message ≠ mustBe names)

theorem message_of_refusal {payload : Json}
    (h : Finds r fuel scope schema spot steps .refusal v) (names : List TypeName) :
    v.describe payload ≠ mustBe names := by
  have hcause := h.cause (c := .falseSchema) rfl
  split at hcause
  · obtain ⟨name, inner, hcause, hroot⟩ := hcause
    obtain ⟨n, hn⟩ := Violation.describe_propertyName payload hcause
    rw [hn, hroot]
    refine ne_mustBe_of_head? (a := 'F') (head?_toList_append ?_) (by decide) names
    decide
  · rw [Violation.describe_falseSchema hcause]
    exact ne_mustBe_of_head? (a := 'b') (by decide) (by decide) names

/-- What is said where a keyword for types fails. -/
theorem tellsType_of_finds {payload : Json} {names : List TypeName} {strict : Bool}
    (h : Finds r fuel scope schema spot steps (.keyword ms (.type names strict)) v)
    (hschema : Rebases payload schema) (hnames : payload.HasDistinctNames)
    (hplace : v.schemaPath = steps.map Step.text) :
    TellsType steps (.keyword ms (.type names strict)) (v.record payload) := by
  obtain ⟨value, hmember, hdeclares, hat⟩ := h.at?_type hschema hnames
  have hcause := h.cause (c := .type names) rfl
  cases hinside : steps.any Step.isNames with
  | true =>
    rw [hinside, if_pos rfl] at hcause
    obtain ⟨name, inner, hcause, hroot⟩ := hcause
    obtain ⟨n, hn⟩ := Violation.describe_propertyName payload hcause
    have hmessage : (v.record payload).message = (Cause.type names).message (.str n) := by
      rw [← hroot, ← hn, Violation.record]
    refine .declared rfl hmember hdeclares ?_ (by simp [hinside])
    rw [hmessage, hinside]
    refine iff_of_false ?_ (by simp)
    exact ne_mustBe_of_head? (head?_message_type names n) (by decide) names
  | false =>
    rw [hinside, if_neg (by decide)] at hcause
    have hmessage : (v.record payload).message = "must be " ++
        Violation.declaredTypes (if steps.any Step.refers then none else some value) := by
      rw [← hat, ← hplace, Violation.record, Violation.describe_type hcause]
    cases hrefers : steps.any Step.refers with
    | true =>
      rw [hrefers, if_pos rfl] at hmessage
      refine .declared rfl hmember hdeclares ?_ fun _ _ => hmessage
      rw [hmessage, hrefers, mustBe, String.append_right_inj]
      exact iff_of_false (Violation.declaredTypes_none_ne names) (by simp)
    | false =>
      rw [hrefers, if_neg (by decide), Violation.declaredTypes_eq hdeclares] at hmessage
      exact .declared rfl hmember hdeclares (iff_of_true hmessage ⟨hrefers, hinside⟩)
        (by simp [hrefers])

/-- For every payload schema that compiles, every payload and every record about a type. -/
theorem CompiledSchema.tells_type {payload document x : Json} {c : CompiledSchema}
    {record : Record} (h : compileSchema payload document = .ok c)
    (hnames : payload.HasDistinctNames) (hrecord : record ∈ c.records payload x)
    (hkeyword : record.keyword = "type") :
    ∃ steps failure v, c.Finds x steps failure v ∧ record = v.record payload ∧
      TellsType steps failure record := by
  obtain ⟨hschema, hpath⟩ := of_compileSchema h
  obtain ⟨steps, failure, v, hfinds, rfl⟩ := exists_finds hrecord
  have hlast : Violation.lastStep (Violation.pointerOf v.schemaPath) = "type" := hkeyword
  have hplace : v.schemaPath = steps.map Step.text := by
    obtain hin | ⟨-, hmost⟩ | hempty := lastStep_of_told (hpath ▸ hfinds.told)
    · exact hin
    · exact absurd (hmost.symm.trans hlast) (by decide)
    · exact absurd (hempty.symm.trans hlast) (by decide)
  rw [hplace, lastStep_eq_iff (by decide)] at hlast
  refine ⟨steps, failure, v, hfinds, rfl, ?_⟩
  cases failure with
  | refusal =>
    refine .named rfl (hlast.resolve_left hfinds.getLast?_refusal) fun names => ?_
    exact message_of_refusal hfinds names
  | keyword ms kw =>
    obtain ⟨before, k, hk, -, rfl⟩ := hfinds.own
    have htype : k = "type" := by simpa using hlast
    obtain ⟨names, strict, value, rfl, -, -⟩ := hfinds.keyword.1.type (htype ▸ hk)
    exact tellsType_of_finds hfinds (hschema ▸ .value payload) hnames hplace

/-- A text where an integer or nothing is asked for. -/
theorem CompiledSchema.tells_type_several :
    let payload : Json := .obj [("type", .arr [.str "integer", .str "null"])]
    ∃ c record, compileSchema payload .null = .ok c ∧ payload.HasDistinctNames ∧
      record ∈ c.records payload (.str "a") ∧ record.keyword = "type" ∧
      record.message = "must be integer,null" ∧
      ∃ steps failure v, c.Finds (.str "a") steps failure v ∧ record = v.record payload ∧
        TellsType steps failure record := by
  intro payload
  obtain ⟨c, hc, hrecords⟩ := compileSchema_of_accepts payload (.str "a")
    [⟨.type [.integer, .null], ⟨.str "a", []⟩, ["type"]⟩] rfl (.leaf rfl rfl rfl)
    (by decide +kernel) (fun _ _ _ => rfl) (fun _ _ _ => rfl) .null
  have hrecord : ⟨"", "/type", "type", "must be integer,null"⟩ ∈ c.records payload (.str "a") := by
    rw [hrecords]
    decide +kernel
  have hnames : payload.HasDistinctNames := Json.hasDistinctNames_of_parts (by decide +kernel)
  exact ⟨c, _, hc, hnames, hrecord, rfl, rfl, tells_type hc hnames hrecord rfl⟩

/-- What a name in an object violates is told in other words. -/
theorem CompiledSchema.not_message_eq_mustBe :
    ¬ ∀ payload document x c record, compileSchema payload document = .ok c →
      payload.HasDistinctNames → record ∈ c.records payload x → record.keyword = "type" →
      ∃ names, record.message = mustBe names := by
  intro hmessage
  let payload : Json := .obj [("propertyNames", .obj [("type", .str "integer")])]
  let x : Json := .obj [("a", .num (.int 1))]
  obtain ⟨c, hc, hrecords⟩ := compileSchema_of_accepts payload x
    [⟨.propertyName "a" (.type [.integer]), ⟨x, []⟩, ["propertyNames", "type"]⟩] rfl
    (.intro rfl rfl (List.forall_mem_singleton.2 (.leaf rfl rfl rfl)))
    (by decide +kernel) (fun _ _ _ => rfl) (fun _ _ _ => rfl) .null
  have hrecord : ⟨"", "/propertyNames/type", "type", "\"a\" is not of type \"integer\""⟩ ∈
      c.records payload x := by
    rw [hrecords]
    decide +kernel
  have hnames : payload.HasDistinctNames := Json.hasDistinctNames_of_parts (by decide +kernel)
  obtain ⟨names, heq⟩ := hmessage payload .null x c _ hc hnames hrecord rfl
  exact ne_mustBe_of_head? (a := '"') (by decide) (by decide) names heq

end MessageContract
