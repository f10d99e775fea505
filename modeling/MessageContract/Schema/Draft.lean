import MessageContract.Json.Basic

/-!
# Drafts

The schema language was published in drafts. A draft says under which keyword a schema names itself,
which keywords hold schemas, and which keywords count. In the newer drafts most keywords belong to
vocabularies and count only where their vocabulary is in use.
-/

namespace MessageContract

/-- A draft of the schema language. -/
inductive Draft
  | draft4
  | draft6
  | draft7
  | draft2019
  | draft2020
  deriving DecidableEq, Repr

/-- Keywords that are in use together. -/
inductive Vocabulary
  /-- Keywords that apply schemas. -/
  | applicator
  /-- Keywords about what no other keyword has looked at. -/
  | unevaluated
  /-- Keywords about the value itself. -/
  | validation
  deriving DecidableEq, Repr

namespace Draft

def all : List Draft := [draft4, draft6, draft7, draft2019, draft2020]

/-- The place in the order of publication. -/
def rank : Draft → Nat
  | draft4 => 0
  | draft6 => 1
  | draft7 => 2
  | draft2019 => 3
  | draft2020 => 4

def isSince (d first : Draft) : Bool := first.rank ≤ d.rank

/-- The name of the schema of schemas. -/
def uri : Draft → String
  | draft4 => "http://json-schema.org/draft-04/schema"
  | draft6 => "http://json-schema.org/draft-06/schema"
  | draft7 => "http://json-schema.org/draft-07/schema"
  | draft2019 => "https://json-schema.org/draft/2019-09/schema"
  | draft2020 => "https://json-schema.org/draft/2020-12/schema"

/-- A text without the number signs at its end. -/
def trimSigns (s : String) : String :=
  String.ofList (s.toList.reverse.dropWhile (· == '#')).reverse

/-- The draft that a schema asks for, or else the one around it; an error names what is asked for
and is no draft. -/
def detect (around : Draft) (schema : Json) : Except String Draft :=
  match (schema.get? "$schema").bind Json.asString? with
  | none => .ok around
  | some s =>
    match all.find? (·.uri == trimSigns s) with
    | some d => .ok d
    | none => .error (trimSigns s)

/-- The vocabularies in use where nothing else is said. -/
def vocabularies : Draft → List Vocabulary
  | draft2019 => [.applicator, .validation]
  | draft2020 => [.applicator, .unevaluated, .validation]
  | _ => []

/-! ## Names -/

/-- The keyword under which a schema names itself. -/
def nameKeyword : Draft → String
  | draft4 => "id"
  | _ => "$id"

def nameText? (d : Draft) (schema : Json) : Option String :=
  (schema.get? d.nameKeyword).bind Json.asString?

/-- The name that a schema gives itself. In the older drafts a schema that is a reference has none,
and a fragment alone is none. -/
def name? (d : Draft) (schema : Json) : Option String :=
  let text := d.nameText? schema
  let text :=
    if d.isSince draft2019 then text
    else if (schema.get? "$ref").isSome then none
    else text.filter fun s => !s.startsWith "#"
  text.map trimSigns

/-- A name for a schema inside a resource. -/
structure Anchor where
  name : String
  /-- Whether the name is looked up along the way that led to it. -/
  isDynamic : Bool

/-- The anchors that a schema gives itself. -/
def anchors (d : Draft) (schema : Json) : List Anchor :=
  let under (keyword : String) (isDynamic : Bool) : List Anchor :=
    (((schema.get? keyword).bind Json.asString?).map fun s => ⟨s, isDynamic⟩).toList
  match d with
  | draft2020 => under "$anchor" false ++ under "$dynamicAnchor" true
  | draft2019 => under "$anchor" false
  | _ =>
    match d.nameText? schema with
    | some s => if s.startsWith "#" then [⟨String.ofList (s.toList.drop 1), false⟩] else []
    | none => []

/-! ## Schemas inside schemas -/

/-- The keywords whose value is a schema. -/
def schemaKeywords : Draft → List String
  | draft4 => ["additionalItems", "additionalProperties", "not"]
  | draft6 => ["additionalItems", "additionalProperties", "contains", "not", "propertyNames"]
  | draft7 => ["additionalItems", "additionalProperties", "contains", "else", "if", "not",
      "propertyNames", "then"]
  | draft2019 => ["additionalItems", "additionalProperties", "contains", "contentSchema", "else",
      "if", "not", "propertyNames", "then", "unevaluatedItems", "unevaluatedProperties"]
  | draft2020 => ["additionalProperties", "contains", "contentSchema", "else", "if", "items", "not",
      "propertyNames", "then", "unevaluatedItems", "unevaluatedProperties"]

/-- The keywords whose value is a list of schemas. -/
def listKeywords : Draft → List String
  | draft2020 => ["allOf", "anyOf", "oneOf", "prefixItems"]
  | _ => ["allOf", "anyOf", "oneOf"]

/-- The keywords whose value is an object of schemas. -/
def objectKeywords (d : Draft) : List String :=
  if d.isSince draft2019 then
    ["$defs", "definitions", "dependentSchemas", "patternProperties", "properties"]
  else ["definitions", "patternProperties", "properties"]

/-- The keywords whose value may be a schema and may be something with schemas inside. -/
def mixedKeywords : Draft → List String
  | draft2020 => []
  | draft2019 => ["items"]
  | _ => ["items", "dependencies"]

def listed : Json → List Json
  | .arr items => items
  | _ => []

def valuesOf : Json → List Json
  | .obj ms => ms.map (·.2)
  | _ => []

/-- The schemas under a keyword. -/
def schemasUnder (d : Draft) (keyword : String) (value : Json) : List Json :=
  if d.schemaKeywords.contains keyword then [value]
  else if d.listKeywords.contains keyword then listed value
  else if d.objectKeywords.contains keyword then valuesOf value
  else if d.mixedKeywords.contains keyword then
    match keyword, value with
    | "items", .arr items => items
    | "items", v => [v]
    | _, v => valuesOf v
  else []

/-- The schemas right inside a schema. -/
def inside (d : Draft) : Json → List Json
  | .obj ms => ms.flatMap fun m => d.schemasUnder m.1 m.2
  | _ => []

/-- A step from a value to a value inside it. -/
inductive Step
  | name (name : String)
  | index (index : Nat)

/-- Whether steps lead from a schema to a schema, as far as the keywords tell; `isObject` says
whether they lead to an object. Indices count for nothing. -/
def reachesSchema (d : Draft) (isObject : Bool) : List Step → Bool
  | [] => true
  | .index _ :: rest => d.reachesSchema isObject rest
  | .name k :: rest =>
    if isObject && d.mixedKeywords.contains k then true
    else if d.schemaKeywords.contains k then d.reachesSchema isObject rest
    else if d.listKeywords.contains k || d.objectKeywords.contains k then
      match rest with
      | _ :: rest => d.reachesSchema isObject rest
      | [] => false
    else false

end Draft

/-- The draft that a schema is read by, and the vocabularies in use. -/
structure Dialect where
  draft : Draft
  vocabularies : List Vocabulary
  deriving DecidableEq, Repr

namespace Dialect

/-- Whether a vocabulary is in use; the older drafts have all their keywords in use. -/
def uses (d : Dialect) (v : Vocabulary) : Bool :=
  !d.draft.isSince .draft2019 || d.vocabularies.contains v

/-- Whether keywords count beside a reference. -/
def allowsSiblings (d : Dialect) : Bool := d.draft.isSince .draft2019

def inUse (d : Dialect) (v : Vocabulary) (first last : Draft) : Bool :=
  d.draft.isSince first && last.isSince d.draft && d.uses v

/-- Whether a keyword counts. -/
def knows (d : Dialect) (keyword : String) : Bool :=
  let applies (first : Draft) : Bool := d.inUse .applicator first .draft2020
  let validates (first : Draft) : Bool := d.inUse .validation first .draft2020
  let unevaluated : Bool :=
    d.inUse .applicator .draft2019 .draft2019 || d.inUse .unevaluated .draft2020 .draft2020
  match keyword with
  | "$ref" => true
  | "$recursiveRef" => d.draft == .draft2019
  | "$dynamicRef" => d.draft == .draft2020
  | "format" => true
  | "contentEncoding" => d.draft == .draft6 || d.draft == .draft7
  | "contentMediaType" => d.draft == .draft6 || d.draft == .draft7
  | "additionalItems" => d.inUse .applicator .draft4 .draft2019
  | "dependencies" => d.inUse .applicator .draft4 .draft7
  | "additionalProperties" => applies .draft4
  | "allOf" => applies .draft4
  | "anyOf" => applies .draft4
  | "oneOf" => applies .draft4
  | "not" => applies .draft4
  | "items" => applies .draft4
  | "properties" => applies .draft4
  | "patternProperties" => applies .draft4
  | "contains" => applies .draft6
  | "propertyNames" => applies .draft6
  | "if" => applies .draft7
  | "dependentSchemas" => applies .draft2019
  | "prefixItems" => applies .draft2020
  | "unevaluatedItems" => unevaluated
  | "unevaluatedProperties" => unevaluated
  | "const" => validates .draft6
  | "exclusiveMinimum" => validates .draft6
  | "exclusiveMaximum" => validates .draft6
  | "dependentRequired" => validates .draft2019
  | _ => validates .draft4

end Dialect
end MessageContract
