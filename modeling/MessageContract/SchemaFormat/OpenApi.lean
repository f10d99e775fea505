import MessageContract.Json.Basic

/-!
# Schema objects of OpenAPI 3.0

Conversion into plain JSON Schema. `nullable: true` lets `null` pass the type and the enumeration
of the same object, a boolean exclusive flag makes the bound beside it strict, and annotations are
dropped. The conversion goes wherever a schema can stand.
-/

namespace MessageContract.OpenApi

/-- Keywords that plain JSON Schema does not know. -/
def annotations : List String :=
  ["nullable", "discriminator", "xml", "externalDocs", "example", "deprecated"]

/-- Keywords whose value is one schema. -/
def schemaKeywords : List String := ["items", "additionalProperties", "not"]

/-- Keywords whose value is a list of schemas. -/
def listKeywords : List String := ["allOf", "anyOf", "oneOf"]

/-- Keywords whose value holds schemas by name. -/
def mapKeywords : List String := ["properties", "patternProperties", "definitions", "$defs"]

/-- Whether a keyword is left out before the bounds are set. -/
def isDropped (keyword : String) : Bool :=
  annotations.contains keyword || keyword == "exclusiveMinimum" || keyword == "exclusiveMaximum"

/-- Sets the strict bound that the flag or limit under `exclusive` asks for. -/
def setStrictBound (bound exclusive : String) (source out : Members) : Members :=
  match source.get? exclusive with
  | some (.bool true) =>
    match out.get? bound with
    | some limit => (out.swapRemove bound).insert exclusive limit
    | none => out
  | some (.bool false) => out
  | none => out
  | some limit => out.insert exclusive limit

/-- An enumeration with `null` in it. -/
def withNull (options : List Json) : List Json :=
  if options.any Json.isNull then options else options ++ [.null]

/-- Lets `null` pass a type. -/
def typeWithNull (out : Members) : Members :=
  match out.get? "type" with
  | some (.str name) => out.insert "type" (.arr [.str name, .str "null"])
  | _ => out

/-- Lets `null` pass an enumeration. -/
def enumWithNull (out : Members) : Members :=
  match out.get? "enum" with
  | some (.arr options) => out.insert "enum" (.arr (withNull options))
  | _ => out

/-- Lets `null` pass a type and an enumeration. -/
def allowNull (out : Members) : Members := enumWithNull (typeWithNull out)

def isNullable (source : Members) : Bool :=
  match source.get? "nullable" with
  | some (.bool true) => true
  | _ => false

/-- The bounds and the `null` of a schema object whose other keywords are converted. -/
def finish (source out : Members) : Members :=
  let bounded := setStrictBound "maximum" "exclusiveMaximum" source
    (setStrictBound "minimum" "exclusiveMinimum" source out)
  if isNullable source then allowNull bounded else bounded

mutual

/-- The plain JSON Schema of a schema. -/
def convert : Json → Json
  | .obj ms => .obj (finish ms (convertKeywords ms))
  | v => v

/-- The keywords that stay, with the schemas in them converted. -/
def convertKeywords : List (String × Json) → Members
  | [] => []
  | (k, v) :: rest =>
    if isDropped k then convertKeywords rest else (k, convertValue k v) :: convertKeywords rest

/-- The value of a keyword. -/
def convertValue (keyword : String) : Json → Json
  | .obj ms =>
    if mapKeywords.contains keyword then .obj (convertEach ms)
    else if schemaKeywords.contains keyword then .obj (finish ms (convertKeywords ms))
    else .obj ms
  | .arr items => if listKeywords.contains keyword then .arr (convertAll items) else .arr items
  | v => v

def convertEach : List (String × Json) → Members
  | [] => []
  | (k, v) :: rest => (k, convert v) :: convertEach rest

def convertAll : List Json → List Json
  | [] => []
  | v :: rest => convert v :: convertAll rest

end

end MessageContract.OpenApi
