import MessageContract.Schema.Draft
import MessageContract.Schema.Metaschema.Basic

/-!
# The schema of schemas of Draft 7
-/

namespace MessageContract.Metaschema.Draft7

private def whole : Json := reference "#"
private def list : Json := reference "#/definitions/schemaArray"
private def limit : Json := reference "#/definitions/nonNegativeInteger"
private def limitFromZero : Json := reference "#/definitions/nonNegativeIntegerDefault0"
private def names : Json := reference "#/definitions/stringArray"

private def definitions : Members :=
  [("schemaArray", schemaList whole),
   ("nonNegativeInteger", countLimit),
   ("nonNegativeIntegerDefault0", one "allOf" (.arr [limit, one "default" (.int 0)])),
   ("simpleTypes", typeNames),
   ("stringArray", listOf text [("uniqueItems", .bool true), ("default", .arr [])])]

private def properties : Members :=
  [("$id", textOf "uri-reference"), ("$schema", textOf "uri"), ("$ref", textOf "uri-reference"),
   ("$comment", text), ("title", text), ("description", text), ("default", .bool true),
   ("readOnly", flag), ("writeOnly", flag), ("examples", examples),
   ("multipleOf", .obj [("type", .str "number"), ("exclusiveMinimum", .int 0)])] ++
  each ["maximum", "exclusiveMaximum", "minimum", "exclusiveMinimum"] number ++
  [("maxLength", limit), ("minLength", limitFromZero), ("pattern", textOf "regex"),
   ("additionalItems", whole), ("items", anyOf [whole, list] [("default", .bool true)]),
   ("maxItems", limit), ("minItems", limitFromZero), ("uniqueItems", flag), ("contains", whole),
   ("maxProperties", limit), ("minProperties", limitFromZero), ("required", names),
   ("additionalProperties", whole),
   ("definitions", mapOf whole [("default", .obj [])]),
   ("properties", mapOf whole [("default", .obj [])]),
   ("patternProperties", mapOf whole
      [("propertyNames", one "format" (.str "regex")), ("default", .obj [])]),
   ("dependencies", mapOf (anyOf [whole, names] []) []), ("propertyNames", whole),
   ("const", .bool true), ("enum", listOf (.bool true) []),
   ("type", typeKeyword (reference "#/definitions/simpleTypes")),
   ("format", text), ("contentMediaType", text), ("contentEncoding", text)] ++
  each ["if", "then", "else"] whole ++ each ["allOf", "anyOf", "oneOf"] list ++ [("not", whole)]

def schema : Json :=
  .obj [("$schema", .str (Draft.draft7.uri ++ "#")), ("$id", .str (Draft.draft7.uri ++ "#")),
    ("title", .str "Core schema meta-schema"), ("definitions", .obj definitions),
    ("type", objectOrBool), ("properties", .obj properties), ("default", .bool true)]

end MessageContract.Metaschema.Draft7
