import MessageContract.Schema.Draft
import MessageContract.Schema.Metaschema.Basic

/-!
# The schema of schemas of Draft 4
-/

namespace MessageContract.Metaschema.Draft4

private def whole : Json := reference "#"
private def list : Json := reference "#/definitions/schemaArray"
private def limit : Json := reference "#/definitions/positiveInteger"
private def limitFromZero : Json := reference "#/definitions/positiveIntegerDefault0"
private def names : Json := reference "#/definitions/stringArray"

private def definitions : Members :=
  [("schemaArray", schemaList whole),
   ("positiveInteger", countLimit),
   ("positiveIntegerDefault0", one "allOf" (.arr [limit, one "default" (.int 0)])),
   ("simpleTypes", typeNames),
   ("stringArray", listOf text [("minItems", .int 1), ("uniqueItems", .bool true)])]

private def properties : Members :=
  each ["id", "$schema", "title", "description"] text ++
  [("default", .obj []),
   ("multipleOf", .obj [("type", .str "number"), ("minimum", .int 0),
      ("exclusiveMinimum", .bool true)]),
   ("maximum", number), ("exclusiveMaximum", ofType "boolean"),
   ("minimum", number), ("exclusiveMinimum", ofType "boolean"),
   ("maxLength", limit), ("minLength", limitFromZero), ("pattern", textOf "regex"),
   ("additionalItems", anyOf [ofType "boolean", whole] [("default", .obj [])]),
   ("items", anyOf [whole, list] [("default", .obj [])]),
   ("maxItems", limit), ("minItems", limitFromZero), ("uniqueItems", flag),
   ("maxProperties", limit), ("minProperties", limitFromZero), ("required", names),
   ("additionalProperties", anyOf [ofType "boolean", whole] [("default", .obj [])])] ++
  each ["definitions", "properties", "patternProperties"] (mapOf whole [("default", .obj [])]) ++
  [("dependencies", mapOf (anyOf [whole, names] []) []),
   ("enum", .obj [("type", .str "array"), ("minItems", .int 1), ("uniqueItems", .bool true)]),
   ("type", typeKeyword (reference "#/definitions/simpleTypes")), ("format", text)] ++
  each ["allOf", "anyOf", "oneOf"] list ++ [("not", whole)]

def schema : Json :=
  .obj [("id", .str (Draft.draft4.uri ++ "#")), ("$schema", .str (Draft.draft4.uri ++ "#")),
    ("description", .str "Core schema meta-schema"), ("definitions", .obj definitions),
    ("type", .str "object"), ("properties", .obj properties),
    ("dependencies", .obj [("exclusiveMaximum", .arr [.str "maximum"]),
      ("exclusiveMinimum", .arr [.str "minimum"])]),
    ("default", .obj [])]

end MessageContract.Metaschema.Draft4
