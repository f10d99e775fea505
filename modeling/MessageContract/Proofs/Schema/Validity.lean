import MessageContract.Proofs.Schema.Conversion
import MessageContract.Proofs.Schema.ServedCircle
import MessageContract.SchemaFormat.Basic

/-!
# Validity of converted schemas

A schema of OpenAPI 3.0 without references, nested to any depth (`OpenApi.IsSchema`), has a verdict
on every value, and its conversion has the same verdict in Draft 7 (`OpenApi.judges_convert_iff`).
What stands under `properties` are names and no keywords: all of them stay, in their order.
-/

namespace MessageContract

/-- The verdict on a value of a schema without references, read in an idiom. -/
def Idiom.Judges (t : Idiom) (schema v : Json) (verdict : Bool) : Prop :=
  (t.reading fun (_ : Unit) _ => none).Verdict () schema v verdict

namespace OpenApi

/-- The types of OpenAPI 3.0. -/
def typeNames : List String := ["string", "number", "integer", "boolean", "array", "object"]

/-- Keywords that say by themselves what they say in plain JSON Schema. -/
def constraints : List String :=
  ["required", "multipleOf", "maxLength", "minLength", "pattern", "format", "maxItems", "minItems",
    "uniqueItems", "maxProperties", "minProperties"]

/-- Keywords that describe a schema. -/
def remarks : List String :=
  ["title", "description", "default", "readOnly", "writeOnly", "discriminator", "xml",
    "externalDocs", "example", "deprecated"]

mutual

/-- A schema of OpenAPI 3.0 without references. -/
inductive IsSchema : Json → Prop
  | flag (b : Bool) : IsSchema (.bool b)
  | object {ms : Members} (distinct : (ms.map (·.1)).Nodup)
      (keywords : ∀ m ∈ ms, IsKeyword m.1 m.2) : IsSchema (.obj ms)

/-- A keyword of such a schema, with a value of its kind. -/
inductive IsKeyword : String → Json → Prop
  | type {k name : String} (keyword : k ∈ ["type"]) (known : name ∈ typeNames) :
    IsKeyword k (.str name)
  | nullable {k : String} (keyword : k ∈ ["nullable"]) (b : Bool) : IsKeyword k (.bool b)
  | enum {k : String} (keyword : k ∈ ["enum"]) (options : List Json) : IsKeyword k (.arr options)
  | bound {k : String} (keyword : k ∈ ["minimum", "maximum"]) (n : Number) : IsKeyword k (.num n)
  | strict {k : String} (keyword : k ∈ ["exclusiveMinimum", "exclusiveMaximum"]) (b : Bool) :
    IsKeyword k (.bool b)
  | limit {k : String} (keyword : k ∈ ["exclusiveMinimum", "exclusiveMaximum"]) (n : Number) :
    IsKeyword k (.num n)
  | constraint {k : String} (keyword : k ∈ constraints) (v : Json) : IsKeyword k v
  | remark {k : String} (keyword : k ∈ remarks) (v : Json) : IsKeyword k v
  | properties {k : String} (keyword : k ∈ ["properties"]) {ps : Members}
      (schemas : ∀ p ∈ ps, IsSchema p.2) : IsKeyword k (.obj ps)
  | schema {k : String} (keyword : k ∈ schemaKeywords) {v : Json} (schema : IsSchema v) :
    IsKeyword k v
  | schemas {k : String} (keyword : k ∈ listKeywords) {vs : List Json}
      (schemas : ∀ v ∈ vs, IsSchema v) : IsKeyword k (.arr vs)

end

/-- The keywords that such schemas have. -/
def keywords : List String :=
  ["type", "nullable", "enum", "minimum", "maximum", "exclusiveMinimum", "exclusiveMaximum",
    "properties"] ++ schemaKeywords ++ listKeywords ++ constraints ++ remarks

/-! ## Keywords by name -/

namespace IsKeyword

variable {k : String} {v : Json}

theorem mem_keywords (h : IsKeyword k v) : k ∈ keywords := by
  cases h with
  | _ keyword =>
    revert k
    decide

theorem type_eq (h : IsKeyword "type" v) : ∃ name, v = .str name := by
  generalize hk : "type" = k at h
  cases h with
  | type => exact ⟨_, rfl⟩
  | _ keyword =>
    subst hk
    exact absurd keyword (by decide)

theorem of_schemaKeyword (h : IsKeyword k v) (hk : k ∈ schemaKeywords) : IsSchema v := by
  cases h with
  | schema _ schema => exact schema
  | _ keyword =>
    exfalso
    revert k
    decide

theorem of_listKeyword {vs : List Json} (h : IsKeyword k (.arr vs)) (hk : k ∈ listKeywords) :
    ∀ v ∈ vs, IsSchema v := by
  cases h with
  | schemas _ schemas => exact schemas
  | _ keyword =>
    exfalso
    revert k
    decide

theorem of_properties {ps : Members} (h : IsKeyword "properties" (.obj ps)) :
    ∀ p ∈ ps, IsSchema p.2 := by
  generalize hk : "properties" = k at h
  cases h with
  | properties _ schemas => exact schemas
  | _ keyword =>
    subst hk
    exact absurd keyword (by decide)

end IsKeyword

namespace IsSchema

variable {ms : Members}

theorem names_nodup (h : IsSchema (.obj ms)) : (ms.map (·.1)).Nodup := by
  cases h with
  | object distinct => exact distinct

theorem isKeyword (h : IsSchema (.obj ms)) {k : String} {x : Json}
    (hx : Members.get? ms k = some x) : IsKeyword k x := by
  cases h with
  | object _ keywords => exact keywords (k, x) (Members.mem_of_get? hx)

/-- Such a schema has no other keywords. -/
theorem get?_eq_none (h : IsSchema (.obj ms)) {k : String} (hk : k ∉ keywords) :
    Members.get? ms k = none := by
  cases hx : Members.get? ms k with
  | none => rfl
  | some x => exact absurd (h.isKeyword hx).mem_keywords hk

theorem reference?_eq_none {v : Json} (h : IsSchema v) : v.reference? = none := by
  cases v with
  | obj ms =>
    have href : Members.get? ms "$ref" = none := h.get?_eq_none (by decide)
    rw [Json.reference?, href]
  | _ => rfl

/-- It is a schema object that the conversion is made for. -/
theorem isForm (h : IsSchema (.obj ms)) : IsForm ms where
  type := fun x hx => (h.isKeyword hx).type_eq
  items := by
    intro xs hxs
    have hschema := (h.isKeyword hxs).of_schemaKeyword (by decide)
    cases hschema
  foreign := by
    intro k hk
    refine Members.get?_eq_none_iff.1 (h.get?_eq_none ?_)
    revert k
    decide

/-- The schemas in its rules are such schemas. -/
theorem of_rules (h : IsSchema (.obj ms)) : ∀ rule ∈ Draft7.rules (Members.get? ms),
    ∀ x, x ∈ rule.inPlace ∨ x ∈ rule.below → IsSchema x := by
  have hnone : ∀ {k}, k ∉ keywords → ∀ {x}, Members.get? ms k ≠ some x := by
    intro k hk x hx
    rw [h.get?_eq_none hk] at hx
    cases hx
  have hvalue : ∀ k ∈ schemaKeywords, ∀ x, Members.get? ms k = some x → IsSchema x :=
    fun k hk x hx => (h.isKeyword hx).of_schemaKeyword hk
  have hlist : ∀ k ∈ listKeywords, ∀ xs, Members.get? ms k = some (.arr xs) →
      ∀ x, x ∈ xs ∨ x ∈ [] → IsSchema x := by
    intro k hk xs hxs x hx
    have hmem : x ∈ xs := by simpa using hx
    exact (h.isKeyword hxs).of_listKeyword hk x hmem
  refine Draft7.rules_cases (fun xs hxs => absurd hxs (h.isForm.items xs))
    (fun xs _ hxs _ => absurd hxs (h.isForm.items xs)) ?items ?properties ?patternProperties
    ?additionalProperties (fun x hx => absurd hx (hnone (by decide)))
    (fun x hx => absurd hx (hnone (by decide))) ?dependencies (hlist "allOf" (by decide))
    (hlist "anyOf" (by decide)) (hlist "oneOf" (by decide)) ?not
    (fun c hc => absurd hc (hnone (by decide)))
  case items =>
    intro y hy x hx
    obtain rfl : x = y := by simpa [Draft7.Rule.inPlace, Draft7.Rule.below] using hx
    exact hvalue "items" (by decide) x hy
  case properties =>
    intro x hx
    obtain ⟨m, hm, rfl⟩ : ∃ m ∈ Draft7.schemasOf (Members.get? ms "properties"), m.2 = x := by
      simpa [Draft7.Rule.inPlace, Draft7.Rule.below] using hx
    obtain ⟨ps, hps, hmem⟩ := Draft7.mem_schemasOf hm
    exact (h.isKeyword hps).of_properties m hmem
  case patternProperties =>
    rw [h.get?_eq_none (k := "patternProperties") (by decide)]
    intro x hx
    simp [Draft7.Rule.inPlace, Draft7.Rule.below, Draft7.schemasOf] at hx
  case additionalProperties =>
    intro names patterns y hy x hx
    obtain rfl : x = y := by simpa [Draft7.Rule.inPlace, Draft7.Rule.below] using hx
    exact hvalue "additionalProperties" (by decide) x hy
  case dependencies =>
    rw [h.get?_eq_none (k := "dependencies") (by decide)]
    intro x hx
    simp [Draft7.Rule.inPlace, Draft7.Rule.below, Draft7.schemasOf] at hx
  case not =>
    intro y hy x hx
    obtain rfl : x = y := by simpa [Draft7.Rule.inPlace, Draft7.Rule.below] using hx
    exact hvalue "not" (by decide) x hy

theorem of_nests {v u : Json} (h : IsSchema v) (hu : Relation.ReflTransGen Json.Nests v u) :
    IsSchema u := by
  induction hu with
  | refl => exact h
  | tail _ hnests ih =>
    cases hnests with
    | part _ hrule hmem => exact ih.of_rules _ hrule _ hmem

theorem isFormed {v : Json} (h : IsSchema v) : IsFormed v where
  distinct := by
    rintro ms rfl
    exact h.names_nodup
  form := by
    rintro ms rfl _
    exact h.isForm

/-- It has a verdict on every value, since the schemas that it hands the value and its parts to
stand inside it. -/
theorem exists_verdict {κ : Type} (r : Reading κ) (c : κ) {schema : Json} (h : IsSchema schema)
    (v : Json) : ∃ b, r.Verdict c schema v b := by
  suffices hall : ∀ u, schema.Holds u → IsSchema u → ∀ v, ∃ b, r.Verdict c u v b from
    hall schema (Json.Holds.refl schema) h v
  clear h v
  induction schema using Json.children_induction with
  | _ schema ih =>
    intro u hu hs v
    rcases Json.holds_iff.1 hu with rfl | ⟨w, hw, hwu⟩
    · cases schema with
      | obj ms =>
        refine Reading.exists_verdict_obj hs.reference?_eq_none (hs.get?_eq_none (by decide))
          fun d hd => ?_
        obtain ⟨rule, hrule, hd⟩ := Reading.mem_demands.1 hd
        have hmem := (Reading.demands_descend hd).imp And.right And.right
        obtain ⟨k, hk⟩ := Sources.exists_part hrule hmem
        obtain ⟨w, hw, hwd⟩ := hk.exists_child
        exact ih w hw d.1 hwd (hs.of_rules rule hrule d.1 hmem) d.2
      | bool b => exact ⟨b, 1, rfl⟩
      | _ => cases hs
    · exact ih w hw u hwu hs v

end IsSchema

/-! ## The conversion -/

/-- Members that are converted keep their names. -/
theorem get?_properties_convert {ms ps : Members} (hms : (ms.map (·.1)).Nodup)
    (hps : Members.get? ms "properties" = some (.obj ps)) :
    (convert (.obj ms)).get? "properties" = some (.obj (ps.map fun p => (p.1, convert p.2))) := by
  have hconverted := get?_convert hms (k := "properties") (by decide) (by decide)
  rw [hps, Option.map_some, convertValue, if_pos (by decide), convertEach_eq] at hconverted
  rw [convert]
  exact hconverted

/-- Conversion succeeds on a schema of OpenAPI, which has a verdict on every value, and the
converted schema has the same verdict in Draft 7. What the schema asks of members by their names is
asked of the same names, whichever they are. -/
theorem judges_convert_iff {schema : Json} (h : IsSchema schema) :
    ∃ out, SchemaFormat.openApi.convert schema = .ok out ∧
      (∀ v, (∃ b, idiom.Judges schema v b) ∧
        ∀ b, Draft7.idiom.Judges out v b ↔ idiom.Judges schema v b) ∧
      ∀ ps, schema.get? "properties" = some (.obj ps) →
        out.get? "properties" = some (.obj (ps.map fun p => (p.1, convert p.2))) := by
  have hconvert : ∀ v b, idiom.Judges schema v b → Draft7.idiom.Judges (convert schema) v b :=
    fun v b hb => verdict_convert_of (r := idiom.reading fun (_ : Unit) _ => none)
      (s := Draft7.idiom.reading fun (_ : Unit) _ => none) rfl rfl (by simp [Idiom.reading])
      (fun u hu => (h.of_nests hu).isFormed) hb
  refine ⟨convert schema, rfl, fun v => ?_, fun ps hps => ?_⟩
  · obtain ⟨b, hb⟩ := h.exists_verdict (idiom.reading fun (_ : Unit) _ => none) () v
    refine ⟨⟨b, hb⟩, fun c => ⟨fun hc => ?_, hconvert v c⟩⟩
    rw [Reading.Verdict.unique hc (hconvert v b hb)]
    exact hb
  · cases schema with
    | obj ms => exact get?_properties_convert h.names_nodup hps
    | _ => cases hps

/-! ## An object with members named like keywords -/

/-- A number of items, above zero. -/
def count : Json :=
  .obj [("type", .str "integer"), ("minimum", .int 0), ("exclusiveMinimum", .bool true)]

/-- Neither `null` nor one of two words. -/
def comment : Json :=
  .obj [("not", .obj [("type", .str "string"), ("nullable", .bool true),
    ("enum", .arr [.str "none", .str "no"])])]

/-- An order may be `null`; its members have the names of keywords. -/
def order : Json :=
  .obj [("type", .str "object"), ("nullable", .bool true), ("example", .null),
    ("properties", .obj [("example", comment), ("minimum", count)]),
    ("required", .arr [.str "minimum"]), ("additionalProperties", .bool false)]

theorem isSchema_order : IsSchema order := by
  have hcount : IsSchema count := by
    refine .object (by decide) (List.forall_mem_cons.2 ⟨?_, List.forall_mem_cons.2 ⟨?_,
      List.forall_mem_cons.2 ⟨?_, List.forall_mem_nil _⟩⟩⟩)
    · exact .type (by decide) (by decide)
    · exact .bound (by decide) _
    · exact .strict (by decide) _
  have hword : IsSchema (.obj [("type", .str "string"), ("nullable", .bool true),
      ("enum", .arr [.str "none", .str "no"])]) := by
    refine .object (by decide) (List.forall_mem_cons.2 ⟨?_, List.forall_mem_cons.2 ⟨?_,
      List.forall_mem_cons.2 ⟨?_, List.forall_mem_nil _⟩⟩⟩)
    · exact .type (by decide) (by decide)
    · exact .nullable (by decide) _
    · exact .enum (by decide) _
  have hcomment : IsSchema comment := by
    refine .object (by decide) fun m hm => ?_
    rw [List.mem_singleton.1 hm]
    exact .schema (by decide) hword
  refine .object (by decide) ?_
  simp only [List.forall_mem_cons]
  refine ⟨.type (by decide) (by decide), .nullable (by decide) _, .remark (by decide) _,
    .properties (by decide) ?_, .constraint (by decide) _, .schema (by decide) (.flag _), by simp⟩
  exact List.forall_mem_cons.2 ⟨hcomment, List.forall_mem_cons.2 ⟨hcount, List.forall_mem_nil _⟩⟩

/-- No order passes, and neither does one of nothing, or with a comment of `null`. -/
theorem judges_convert_iff_order :
    ∃ out, SchemaFormat.openApi.convert order = .ok out ∧
      Draft7.idiom.Judges out .null true ∧
      Draft7.idiom.Judges out (.obj [("minimum", .int 1), ("example", .str "fragile")]) true ∧
      Draft7.idiom.Judges out (.obj [("minimum", .int 0)]) false ∧
      Draft7.idiom.Judges out (.obj [("minimum", .int 1), ("example", .null)]) false ∧
      out.get? "properties" =
        some (.obj [("example", convert comment), ("minimum", convert count)]) := by
  obtain ⟨out, hout, hjudges, hnames⟩ := judges_convert_iff isSchema_order
  refine ⟨out, hout, ((hjudges _).2 _).2 ⟨5, ?_⟩, ((hjudges _).2 _).2 ⟨5, ?_⟩,
    ((hjudges _).2 _).2 ⟨5, ?_⟩, ((hjudges _).2 _).2 ⟨5, ?_⟩, hnames _ rfl⟩
  all_goals
    decide +kernel

end OpenApi
end MessageContract
