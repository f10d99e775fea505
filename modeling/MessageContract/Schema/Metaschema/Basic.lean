import MessageContract.Json.Basic

/-!
# Parts of schemas of schemas

Schemas that occur in the schemas of schemas of several drafts.
-/

namespace MessageContract.Metaschema

def one (keyword : String) (value : Json) : Json := .obj [(keyword, value)]

def ofType (name : String) : Json := one "type" (.str name)

def reference (target : String) : Json := one "$ref" (.str target)

def number : Json := ofType "number"

def text : Json := ofType "string"

/-- A truth value that is false where it is absent. -/
def flag : Json := .obj [("type", .str "boolean"), ("default", .bool false)]

def textOf (format : String) : Json :=
  .obj [("type", .str "string"), ("format", .str format)]

def textLike (pattern : String) : Json :=
  .obj [("type", .str "string"), ("pattern", .str pattern)]

def anyOf (options : List Json) (more : Members) : Json :=
  .obj (("anyOf", .arr options) :: more)

def listOf (item : Json) (more : Members) : Json :=
  .obj ([("type", .str "array"), ("items", item)] ++ more)

/-- An object whose members all have one schema. -/
def mapOf (value : Json) (more : Members) : Json :=
  .obj ([("type", .str "object"), ("additionalProperties", value)] ++ more)

/-- A list of schemas that is not empty. -/
def schemaList (schema : Json) : Json :=
  .obj [("type", .str "array"), ("minItems", .int 1), ("items", schema)]

def countLimit : Json := .obj [("type", .str "integer"), ("minimum", .int 0)]

/-- The names of the types. -/
def typeNames : Json :=
  one "enum" (.arr (["array", "boolean", "integer", "null", "number", "object", "string"].map .str))

/-- The name of a type, or a list of them without repetition. -/
def typeKeyword (name : Json) : Json :=
  anyOf [name, listOf name [("minItems", .int 1), ("uniqueItems", .bool true)]] []

def objectOrBool : Json := .arr [.str "object", .str "boolean"]

def examples : Json := listOf (.bool true) []

/-- Members without a value of their own that all have one schema. -/
def each (names : List String) (schema : Json) : Members := names.map (·, schema)

end MessageContract.Metaschema
