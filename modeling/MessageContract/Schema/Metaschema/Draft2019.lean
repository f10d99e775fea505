import MessageContract.Schema.Draft
import MessageContract.Schema.Metaschema.Basic

/-!
# The schemas of schemas of Draft 2019-09

One schema for each vocabulary, and one that takes them all together. A schema inside a schema is
what the outermost of them on the way says.
-/

namespace MessageContract.Metaschema.Draft2019

private def whole : Json := one "$recursiveRef" (.str "#")

/-- The schema of a vocabulary. -/
private def part (name : String) (title : String) (properties definitions : Members) : Json :=
  let base := "https://json-schema.org/draft/2019-09/"
  .obj ([("$schema", .str Draft.draft2019.uri), ("$id", .str (base ++ "meta/" ++ name)),
    ("$vocabulary", one (base ++ "vocab/" ++ name) (.bool true)),
    ("$recursiveAnchor", .bool true), ("title", .str title), ("type", objectOrBool),
    ("properties", .obj properties)] ++
    if definitions.isEmpty then [] else [("$defs", .obj definitions)])

private def core : Json :=
  part "core" "Core vocabulary meta-schema"
    [("$id", .obj [("type", .str "string"), ("format", .str "uri-reference"),
        ("$comment", .str "Non-empty fragments not allowed."), ("pattern", .str "^[^#]*#?$")]),
     ("$schema", textOf "uri"), ("$anchor", textLike "^[A-Za-z][-A-Za-z0-9.:_]*$"),
     ("$ref", textOf "uri-reference"), ("$recursiveRef", textOf "uri-reference"),
     ("$recursiveAnchor", flag),
     ("$vocabulary", .obj [("type", .str "object"), ("propertyNames", textOf "uri"),
        ("additionalProperties", ofType "boolean")]),
     ("$comment", text), ("$defs", mapOf whole [("default", .obj [])])] []

private def applicator : Json :=
  let list := reference "#/$defs/schemaArray"
  part "applicator" "Applicator vocabulary meta-schema"
    (each ["additionalItems", "unevaluatedItems"] whole ++ [("items", anyOf [whole, list] [])] ++
      each ["contains", "additionalProperties", "unevaluatedProperties"] whole ++
      [("properties", mapOf whole [("default", .obj [])]),
       ("patternProperties", mapOf whole
          [("propertyNames", one "format" (.str "regex")), ("default", .obj [])]),
       ("dependentSchemas", mapOf whole [])] ++
      each ["propertyNames", "if", "then", "else"] whole ++
      each ["allOf", "anyOf", "oneOf"] list ++ [("not", whole)])
    [("schemaArray", schemaList whole)]

private def validation : Json :=
  let limit := reference "#/$defs/nonNegativeInteger"
  let limitFromZero := reference "#/$defs/nonNegativeIntegerDefault0"
  let names := reference "#/$defs/stringArray"
  part "validation" "Validation vocabulary meta-schema"
    ([("multipleOf", .obj [("type", .str "number"), ("exclusiveMinimum", .int 0)])] ++
      each ["maximum", "exclusiveMaximum", "minimum", "exclusiveMinimum"] number ++
      [("maxLength", limit), ("minLength", limitFromZero), ("pattern", textOf "regex"),
       ("maxItems", limit), ("minItems", limitFromZero), ("uniqueItems", flag),
       ("maxContains", limit),
       ("minContains", .obj [("$ref", .str "#/$defs/nonNegativeInteger"), ("default", .int 1)]),
       ("maxProperties", limit), ("minProperties", limitFromZero), ("required", names),
       ("dependentRequired", mapOf names []), ("const", .bool true),
       ("enum", listOf (.bool true) []), ("type", typeKeyword (reference "#/$defs/simpleTypes"))])
    [("nonNegativeInteger", countLimit),
     ("nonNegativeIntegerDefault0", .obj [("$ref", .str "#/$defs/nonNegativeInteger"),
        ("default", .int 0)]),
     ("simpleTypes", typeNames),
     ("stringArray", listOf text [("uniqueItems", .bool true), ("default", .arr [])])]

private def metaData : Json :=
  part "meta-data" "Meta-data vocabulary meta-schema"
    (each ["title", "description"] text ++ [("default", .bool true)] ++
      each ["deprecated", "readOnly", "writeOnly"] flag ++ [("examples", examples)]) []

private def format : Json := part "format" "Format vocabulary meta-schema" [("format", text)] []

private def content : Json :=
  part "content" "Content vocabulary meta-schema"
    [("contentMediaType", text), ("contentEncoding", text), ("contentSchema", whole)] []

private def kept : String :=
  "While no longer an official keyword as it is replaced by $defs, this keyword is retained in " ++
    "the meta-schema to prevent incompatible extensions as it remains in common use."

private def split : String :=
  "\"dependencies\" is no longer a keyword, but schema authors should avoid redefining it to " ++
    "facilitate a smooth transition to \"dependentSchemas\" and \"dependentRequired\""

private def vocabulary (name : String) (isNeeded : Bool) : String × Json :=
  ("https://json-schema.org/draft/2019-09/vocab/" ++ name, .bool isNeeded)

private def main : Json :=
  .obj [("$schema", .str Draft.draft2019.uri), ("$id", .str Draft.draft2019.uri),
    ("$vocabulary", .obj [vocabulary "core" true, vocabulary "applicator" true,
      vocabulary "validation" true, vocabulary "meta-data" true, vocabulary "format" false,
      vocabulary "content" true]),
    ("$recursiveAnchor", .bool true),
    ("title", .str "Core and Validation specifications meta-schema"),
    ("allOf", .arr (["meta/core", "meta/applicator", "meta/validation", "meta/meta-data",
      "meta/format", "meta/content"].map reference)),
    ("type", objectOrBool),
    ("properties", .obj [
      ("definitions", .obj [("$comment", .str kept), ("type", .str "object"),
        ("additionalProperties", whole), ("default", .obj [])]),
      ("dependencies", .obj [("$comment", .str split), ("type", .str "object"),
        ("additionalProperties",
          anyOf [whole, reference "meta/validation#/$defs/stringArray"] [])])])]

/-- The schemas, the one for all vocabularies first. -/
def schemas : List Json := [main, core, applicator, validation, metaData, format, content]

end MessageContract.Metaschema.Draft2019
