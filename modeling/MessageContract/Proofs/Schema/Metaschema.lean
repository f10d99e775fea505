import MessageContract.Proofs.Schema.Standard
import MessageContract.Proofs.Uri.Fragment

/-!
# The schema of schemas of Draft 7

The schemas in the schema of schemas (`Metaschema.Piece`), what each of them says
(`Metaschema.Piece.keywords_eq`), and where its references lead
(`Metaschema.Piece.resolve_of_target`). They are all read in the same dialect and from the same base
(`Scope.IsMeta`).
-/

namespace MessageContract

/-- The schema of schemas is read in its dialect and from its own base. -/
structure Scope.IsMeta (scope : Scope) : Prop where
  base : scope.view.base = Uri.metaschema
  dialect : scope.dialect = ⟨.draft7, []⟩

namespace Metaschema

/-- The schemas in the schema of schemas; some of them are references to others. -/
inductive Piece
  | whole
  | top
  | list
  | schemaArray
  | limit
  | nonNegative
  | limitFromZero
  | fromZero
  | zero
  | names
  | stringArray
  | typeName
  | simpleTypes
  | typeKeyword
  | typeList
  | text
  | number
  | flag
  | divisor
  | uriReference
  | uri
  | regex
  | anything
  | anyList
  | items
  | schemaMap
  | patternMap
  | dependency
  | dependencies
  deriving DecidableEq

namespace Piece

def schema : Piece → Json
  | whole => reference "#"
  | top => Draft7.schema
  | list => reference "#/definitions/schemaArray"
  | schemaArray => schemaList (reference "#")
  | limit => reference "#/definitions/nonNegativeInteger"
  | nonNegative => countLimit
  | limitFromZero => reference "#/definitions/nonNegativeIntegerDefault0"
  | fromZero =>
    one "allOf" (.arr [reference "#/definitions/nonNegativeInteger", one "default" (.int 0)])
  | zero => one "default" (.int 0)
  | names => reference "#/definitions/stringArray"
  | stringArray => listOf Metaschema.text [("uniqueItems", .bool true), ("default", .arr [])]
  | typeName => reference "#/definitions/simpleTypes"
  | simpleTypes => typeNames
  | typeKeyword => Metaschema.typeKeyword (reference "#/definitions/simpleTypes")
  | typeList => listOf (reference "#/definitions/simpleTypes")
      [("minItems", .int 1), ("uniqueItems", .bool true)]
  | text => Metaschema.text
  | number => Metaschema.number
  | flag => Metaschema.flag
  | divisor => .obj [("type", .str "number"), ("exclusiveMinimum", .int 0)]
  | uriReference => textOf "uri-reference"
  | uri => textOf "uri"
  | regex => textOf "regex"
  | anything => .bool true
  | anyList => examples
  | items => anyOf [reference "#", reference "#/definitions/schemaArray"] [("default", .bool true)]
  | schemaMap => mapOf (reference "#") [("default", .obj [])]
  | patternMap => mapOf (reference "#")
      [("propertyNames", one "format" (.str "regex")), ("default", .obj [])]
  | dependency => anyOf [reference "#", reference "#/definitions/stringArray"] []
  | dependencies => mapOf (anyOf [reference "#", reference "#/definitions/stringArray"] []) []

/-- Where a reference leads. -/
def target? : Piece → Option (String × Piece)
  | whole => some ("#", top)
  | list => some ("#/definitions/schemaArray", schemaArray)
  | limit => some ("#/definitions/nonNegativeInteger", nonNegative)
  | limitFromZero => some ("#/definitions/nonNegativeIntegerDefault0", fromZero)
  | names => some ("#/definitions/stringArray", stringArray)
  | typeName => some ("#/definitions/simpleTypes", simpleTypes)
  | _ => none

/-- What is asked of each keyword of a schema. -/
def properties : List (String × Piece) :=
  [("$id", uriReference), ("$schema", uri), ("$ref", uriReference), ("$comment", text),
   ("title", text), ("description", text), ("default", anything), ("readOnly", flag),
   ("writeOnly", flag), ("examples", anyList), ("multipleOf", divisor), ("maximum", number),
   ("exclusiveMaximum", number), ("minimum", number), ("exclusiveMinimum", number),
   ("maxLength", limit), ("minLength", limitFromZero), ("pattern", regex),
   ("additionalItems", whole), ("items", items), ("maxItems", limit), ("minItems", limitFromZero),
   ("uniqueItems", flag), ("contains", whole), ("maxProperties", limit),
   ("minProperties", limitFromZero), ("required", names), ("additionalProperties", whole),
   ("definitions", schemaMap), ("properties", schemaMap), ("patternProperties", patternMap),
   ("dependencies", dependencies), ("propertyNames", whole), ("const", anything),
   ("enum", anyList), ("type", typeKeyword), ("format", text), ("contentMediaType", text),
   ("contentEncoding", text), ("if", whole), ("then", whole), ("else", whole), ("allOf", list),
   ("anyOf", list), ("oneOf", list), ("not", whole)]

end Piece

/-- What a piece says, in terms of pieces. -/
inductive Clause
  /-- A keyword without schemas in it. -/
  | plain (keyword : Keyword)
  | reference (target : String)
  | items (piece : Piece)
  | distinctItems
  | properties
  /-- All members have the same schema. -/
  | members (piece : Piece)
  | names (schema : Json)
  | allOf (pieces : List Piece)
  | anyOf (pieces : List Piece)

def Clause.keyword : Clause → Keyword
  | plain k => k
  | reference target => .reference .direct target
  | items p => .items p.schema 0
  | distinctItems => .uniqueItems
  | properties => .properties (Piece.properties.map fun e => (e.1, e.2.schema))
  | members p => .members [] [] (some p.schema)
  | names s => .propertyNames s
  | allOf ps => .allOf (ps.map Piece.schema)
  | anyOf ps => .anyOf (ps.map Piece.schema)

namespace Piece

def clauses : Piece → List Clause
  | whole => [.reference "#"]
  | top => [.plain (.type [.object, .boolean] false), .properties]
  | list => [.reference "#/definitions/schemaArray"]
  | schemaArray => [.plain (.type [.array] false), .plain (.size ⟨.items, false⟩ 1), .items whole]
  | limit => [.reference "#/definitions/nonNegativeInteger"]
  | nonNegative => [.plain (.type [.integer] false), .plain (.bound .minimum (.int 0))]
  | limitFromZero => [.reference "#/definitions/nonNegativeIntegerDefault0"]
  | fromZero => [.allOf [limit, zero]]
  | names => [.reference "#/definitions/stringArray"]
  | stringArray => [.plain (.type [.array] false), .items text, .distinctItems]
  | typeName => [.reference "#/definitions/simpleTypes"]
  | simpleTypes => [.plain (.enum (["array", "boolean", "integer", "null", "number", "object",
      "string"].map .str))]
  | typeKeyword => [.anyOf [typeName, typeList]]
  | typeList => [.plain (.type [.array] false), .items typeName,
      .plain (.size ⟨.items, false⟩ 1), .distinctItems]
  | text => [.plain (.type [.string] false)]
  | number => [.plain (.type [.number] false)]
  | flag => [.plain (.type [.boolean] false)]
  | divisor => [.plain (.type [.number] false), .plain (.bound .exclusiveMinimum (.int 0))]
  | uriReference =>
    [.plain (.type [.string] false), .plain (.format "uri-reference" .uriReference)]
  | uri => [.plain (.type [.string] false), .plain (.format "uri" .uri)]
  | regex => [.plain (.type [.string] false), .plain (.format "regex" .regex)]
  | anyList => [.plain (.type [.array] false), .items anything]
  | items => [.anyOf [whole, list]]
  | schemaMap => [.plain (.type [.object] false), .members whole]
  | patternMap => [.plain (.type [.object] false), .members whole,
      .names (one "format" (.str "regex"))]
  | dependency => [.anyOf [whole, names]]
  | dependencies => [.plain (.type [.object] false), .members dependency]
  | _ => []

/-- The keywords of a piece are its clauses. -/
theorem keywords_eq {p : Piece} {ms : Members} (h : p.schema = .obj ms) :
    Dialect.keywords ⟨.draft7, []⟩ ms = p.clauses.map Clause.keyword := by
  cases p <;> first | cases h; done | (obtain rfl := Json.obj.inj h; rfl)

/-! ## Scopes -/

theorem isNameless {p : Piece} (hp : p ≠ top) : p.schema.isNameless = true := by
  cases p <;> first | exact absurd rfl hp | decide +kernel

theorem detect_eq {p : Piece} (hp : p ≠ top) (d : Draft) : d.detect p.schema = .ok d := by
  cases p <;> first | exact absurd rfl hp | rfl

theorem dialect_eq (p : Piece) : Resource.dialect ⟨p.schema, .draft7⟩ = ⟨.draft7, []⟩ := by
  cases p <;> decide +kernel

/-- Pieces in pieces are read in the same way. -/
theorem isMeta_intoAnyway {scope : Scope} (h : scope.IsMeta) {p : Piece} (hp : p ≠ top)
    (path : List String) : (scope.intoAnyway ⟨path, p.schema⟩).IsMeta := by
  have hinto : scope.into ⟨path, p.schema⟩ = .ok { scope with
      view := { scope.view with base := scope.view.base }
      dialect := { scope.dialect with draft := scope.dialect.draft }
      path := scope.path ++ path } := by
    simp only [Scope.into, Resources.Viewpoint.enter, detect_eq hp, Resource.base,
      Except.toOption, Option.getD_some, Draft.name?_of_isNameless (isNameless hp)]
    rfl
  rw [Scope.intoAnyway, hinto]
  exact ⟨h.base, h.dialect⟩

theorem isMeta_metaScope : CompiledSchema.metaScope.IsMeta where
  base := congrArg (fun o => Option.getD o Uri.unnamed) Resources.toOption_base_metaResource
  dialect := dialect_eq top

/-! ## References -/

/-- One step into an object. -/
theorem descend_member {d : Draft} {pointer name : String} {v : Resources.Viewpoint}
    {steps : List Draft.Step} {value inner : Json} {segment : List Char}
    {rest : List (List Char)} (hname : String.ofList (Pointer.unescape segment) = name)
    (hinner : value.get? name = some inner) (hsame : inner.isNameless = true) :
    Resources.descend d pointer v steps value (segment :: rest) =
      Resources.descend d pointer v (steps ++ [.name name]) inner rest := by
  have henter : v.enter ⟨inner, d⟩ = .ok v := by
    simp only [Resources.Viewpoint.enter, Resource.base, Draft.name?_of_isNameless hsame]
    rfl
  cases value with
  | obj ms =>
    rw [Resources.descend.eq_def]
    simp only [hname, hinner, henter, ite_self, bind, Except.bind]
  | _ => cases hinner

section

variable {r : Resources}
  (hr : r.entries.lookup Uri.metaschema.write = some CompiledSchema.metaResource) {scope : Scope}
  (h : scope.IsMeta)
include hr h

/-- A reference to a definition leads to it. -/
theorem lookup_definition {target : String} (text name : String) {s : Json}
    (htarget : target.toList = '#' :: '/' :: text.toList) (hplain : '%' ∉ text.toList)
    (hnames : (Pointer.pieces text.toList).map (fun cs => String.ofList (Pointer.unescape cs)) =
      ["definitions", name])
    (hs : (Draft7.schema.get? "definitions").bind (·.get? name) = some s) :
    ∃ view, r.lookup scope.view target = .ok (view, ⟨s, .draft7⟩) ∧
      view.base = Uri.metaschema := by
  obtain ⟨definitions, hdefinitions, hs⟩ := Option.bind_eq_some_iff.1 hs
  have hnameless : definitions.isNameless = true := by
    have hall : ((Draft7.schema.get? "definitions").all Json.isNameless) = true := by
      decide +kernel
    rw [hdefinitions] at hall
    exact hall
  have hname : s.isNameless = true := by
    cases definitions with
    | obj ms => exact Members.isNameless_of_mem hnameless (Members.mem_of_get? hs)
    | _ => cases hs
  have hdecode : Utf8.decode? (Url.decodeBytes text.toList) = some text := Uri.decode?_plain hplain
  refine ⟨scope.view.goTo Uri.metaschema, ?_, rfl⟩
  rw [Resources.lookup, Resources.target, htarget, h.base]
  simp only [hr, bind, Except.bind, String.toList_ofList, hdecode]
  rw [show CompiledSchema.metaResource.draft = .draft7 from rfl,
    show CompiledSchema.metaResource.schema = Draft7.schema from rfl]
  generalize Pointer.pieces text.toList = ps at hnames
  obtain ⟨a, ps, rfl, ha, hnames⟩ := List.map_eq_cons_iff.1 hnames
  obtain ⟨b, ps, rfl, hb, hnames⟩ := List.map_eq_cons_iff.1 hnames
  rw [List.map_eq_nil_iff.1 hnames, descend_member ha hdefinitions hnameless,
    descend_member hb hs hname]
  rfl

theorem lookup_of_target {p q : Piece} {target : String} (ht : p.target? = some (target, q)) :
    ∃ view, r.lookup scope.view target = .ok (view, ⟨q.schema, .draft7⟩) ∧
      view.base = Uri.metaschema := by
  cases p <;> first | cases ht; done | obtain ⟨rfl, rfl⟩ := Prod.mk.inj (Option.some.inj ht)
  case whole =>
    refine ⟨scope.view.goTo Uri.metaschema, ?_, rfl⟩
    rw [Resources.lookup, Resources.target, show "#".toList = ['#'] by decide +kernel, h.base]
    simp only [hr, bind, Except.bind, String.toList_ofList]
    rfl
  case list =>
    exact lookup_definition hr h "definitions/schemaArray" "schemaArray" (by decide +kernel)
      (by decide +kernel) (by decide +kernel) rfl
  case limit =>
    exact lookup_definition hr h "definitions/nonNegativeInteger" "nonNegativeInteger"
      (by decide +kernel) (by decide +kernel) (by decide +kernel) rfl
  case limitFromZero =>
    exact lookup_definition hr h "definitions/nonNegativeIntegerDefault0"
      "nonNegativeIntegerDefault0" (by decide +kernel) (by decide +kernel) (by decide +kernel) rfl
  case names =>
    exact lookup_definition hr h "definitions/stringArray" "stringArray" (by decide +kernel)
      (by decide +kernel) (by decide +kernel) rfl
  case typeName =>
    exact lookup_definition hr h "definitions/simpleTypes" "simpleTypes" (by decide +kernel)
      (by decide +kernel) (by decide +kernel) rfl

/-- References in the schema of schemas lead to pieces of it. -/
theorem resolve_of_target {p q : Piece} {target : String} (ht : p.target? = some (target, q)) :
    ∃ inner, r.resolve scope .direct target = .ok (inner, q.schema) ∧ inner.IsMeta := by
  obtain ⟨view, hview, hbase⟩ := lookup_of_target hr h ht
  refine ⟨⟨view, ⟨.draft7, []⟩, scope.path ++ ["$ref"],
    if scope.hasFollowed target then [] else scope.absolute target :: scope.followed⟩, ?_,
    hbase, rfl⟩
  unfold Resources.resolve
  simp only [hview, dialect_eq, bind, Except.bind]
  rfl

end

end Piece
end Metaschema
end MessageContract
