import MessageContract.Schema.Draft
import MessageContract.Schema.Metaschema.Basic

/-!
# The schemas of schemas of Draft 2020-12

One schema for each vocabulary, and one that takes them all together. A schema inside a schema is
what the outermost of them on the way says.
-/

namespace MessageContract.Metaschema.Draft2020

private def whole : Json := one "$dynamicRef" (.str "#meta")

/-- The schema of a vocabulary. -/
private def part (name : String) (title : String) (properties definitions : Members) : Json :=
  let base := "https://json-schema.org/draft/2020-12/"
  .obj ([("$schema", .str Draft.draft2020.uri), ("$id", .str (base ++ "meta/" ++ name)),
    ("$vocabulary", one (base ++ "vocab/" ++ name) (.bool true)),
    ("$dynamicAnchor", .str "meta"), ("title", .str title), ("type", objectOrBool),
    ("properties", .obj properties)] ++
    if definitions.isEmpty then [] else [("$defs", .obj definitions)])

private def core : Json :=
  let anchor := reference "#/$defs/anchorString"
  let link := reference "#/$defs/uriReferenceString"
  part "core" "Core vocabulary meta-schema"
    [("$id", .obj [("$ref", .str "#/$defs/uriReferenceString"),
        ("$comment", .str "Non-empty fragments not allowed."), ("pattern", .str "^[^#]*#?$")]),
     ("$schema", reference "#/$defs/uriString"), ("$ref", link), ("$anchor", anchor),
     ("$dynamicRef", link), ("$dynamicAnchor", anchor),
     ("$vocabulary", .obj [("type", .str "object"),
        ("propertyNames", reference "#/$defs/uriString"),
        ("additionalProperties", ofType "boolean")]),
     ("$comment", text), ("$defs", mapOf whole [])]
    [("anchorString", textLike "^[A-Za-z_][-A-Za-z0-9._]*$"), ("uriString", textOf "uri"),
     ("uriReferenceString", textOf "uri-reference")]

private def applicator : Json :=
  let list := reference "#/$defs/schemaArray"
  part "applicator" "Applicator vocabulary meta-schema"
    ([("prefixItems", list)] ++ each ["items", "contains", "additionalProperties"] whole ++
      [("properties", mapOf whole [("default", .obj [])]),
       ("patternProperties", mapOf whole
          [("propertyNames", one "format" (.str "regex")), ("default", .obj [])]),
       ("dependentSchemas", mapOf whole [("default", .obj [])])] ++
      each ["propertyNames", "if", "then", "else"] whole ++
      each ["allOf", "anyOf", "oneOf"] list ++ [("not", whole)])
    [("schemaArray", schemaList whole)]

private def unevaluated : Json :=
  part "unevaluated" "Unevaluated applicator vocabulary meta-schema"
    (each ["unevaluatedItems", "unevaluatedProperties"] whole) []

private def validation : Json :=
  let limit := reference "#/$defs/nonNegativeInteger"
  let limitFromZero := reference "#/$defs/nonNegativeIntegerDefault0"
  let names := reference "#/$defs/stringArray"
  part "validation" "Validation vocabulary meta-schema"
    ([("type", typeKeyword (reference "#/$defs/simpleTypes")), ("const", .bool true),
      ("enum", listOf (.bool true) []),
      ("multipleOf", .obj [("type", .str "number"), ("exclusiveMinimum", .int 0)])] ++
      each ["maximum", "exclusiveMaximum", "minimum", "exclusiveMinimum"] number ++
      [("maxLength", limit), ("minLength", limitFromZero), ("pattern", textOf "regex"),
       ("maxItems", limit), ("minItems", limitFromZero), ("uniqueItems", flag),
       ("maxContains", limit),
       ("minContains", .obj [("$ref", .str "#/$defs/nonNegativeInteger"), ("default", .int 1)]),
       ("maxProperties", limit), ("minProperties", limitFromZero), ("required", names),
       ("dependentRequired", mapOf names [])])
    [("nonNegativeInteger", countLimit),
     ("nonNegativeIntegerDefault0", .obj [("$ref", .str "#/$defs/nonNegativeInteger"),
        ("default", .int 0)]),
     ("simpleTypes", typeNames),
     ("stringArray", listOf text [("uniqueItems", .bool true), ("default", .arr [])])]

private def metaData : Json :=
  part "meta-data" "Meta-data vocabulary meta-schema"
    (each ["title", "description"] text ++ [("default", .bool true)] ++
      each ["deprecated", "readOnly", "writeOnly"] flag ++ [("examples", examples)]) []

private def format : Json :=
  part "format-annotation" "Format vocabulary meta-schema for annotation results"
    [("format", text)] []

private def content : Json :=
  part "content" "Content vocabulary meta-schema"
    [("contentEncoding", text), ("contentMediaType", text), ("contentSchema", whole)] []

private def replaced (old new : String) : Json :=
  .str ("\"" ++ old ++ "\" has been replaced by \"" ++ new ++ "\".")

private def split : String :=
  "\"dependencies\" has been split and replaced by \"dependentSchemas\" and " ++
    "\"dependentRequired\" in order to serve their differing semantics."

private def also : String :=
  "This meta-schema also defines keywords that have appeared in previous drafts in order to " ++
    "prevent incompatible extensions as they remain in common use."

private def vocabulary (name : String) : String × Json :=
  ("https://json-schema.org/draft/2020-12/vocab/" ++ name, .bool true)

private def main : Json :=
  let names := ["core", "applicator", "unevaluated", "validation", "meta-data",
    "format-annotation", "content"]
  .obj [("$schema", .str Draft.draft2020.uri), ("$id", .str Draft.draft2020.uri),
    ("$vocabulary", .obj (names.map vocabulary)), ("$dynamicAnchor", .str "meta"),
    ("title", .str "Core and Validation specifications meta-schema"),
    ("allOf", .arr (names.map fun n => reference ("meta/" ++ n))), ("type", objectOrBool),
    ("$comment", .str also),
    ("properties", .obj [
      ("definitions", .obj [("$comment", replaced "definitions" "$defs"),
        ("type", .str "object"), ("additionalProperties", whole), ("deprecated", .bool true),
        ("default", .obj [])]),
      ("dependencies", .obj [("$comment", .str split), ("type", .str "object"),
        ("additionalProperties",
          anyOf [whole, reference "meta/validation#/$defs/stringArray"] []),
        ("deprecated", .bool true), ("default", .obj [])]),
      ("$recursiveAnchor", .obj [("$comment", replaced "$recursiveAnchor" "$dynamicAnchor"),
        ("$ref", .str "meta/core#/$defs/anchorString"), ("deprecated", .bool true)]),
      ("$recursiveRef", .obj [("$comment", replaced "$recursiveRef" "$dynamicRef"),
        ("$ref", .str "meta/core#/$defs/uriReferenceString"), ("deprecated", .bool true)])])]

/-- The schemas, the one for all vocabularies first. -/
def schemas : List Json :=
  [main, core, applicator, unevaluated, validation, metaData, format, content]

end MessageContract.Metaschema.Draft2020
