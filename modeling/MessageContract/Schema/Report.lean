import MessageContract.Json.Pointer
import MessageContract.Record
import MessageContract.Schema.Compile

/-!
# Violations in words

A violation as a record: the two places as JSON Pointers, the keyword, and what a value must be.
-/

namespace MessageContract.Violation

/-- Steps as a JSON Pointer. -/
def pointerOf (path : List String) : String :=
  String.join (path.map fun s => "/" ++ String.ofList (Pointer.escape s.toList))

/-- The text behind the last slash. -/
def lastStep (pointer : String) : String :=
  String.ofList (pointer.toList.reverse.takeWhile (· != '/')).reverse

/-- A text without the quotes at both its ends. -/
def unquote (s : String) : String :=
  let isQuote (c : Char) : Bool := c == '"'
  String.ofList ((s.toList.dropWhile isQuote).reverse.dropWhile isQuote).reverse

/-- The types that a `type` keyword names. -/
def declaredTypes : Option Json → String
  | some (.str t) => t
  | some (.arr ts) => String.intercalate "," (ts.filterMap Json.asString?)
  | _ => "of the declared type"

private def boundSign : Bound → String
  | .minimum => ">="
  | .maximum => "<="
  | .exclusiveMinimum => ">"
  | .exclusiveMaximum => "<"

private def measured : Measure → String
  | .characters => "characters"
  | .items => "items"
  | .properties => "properties"

private def sizeText (s : Size) (limit : Nat) : String :=
  "must NOT have " ++ (if s.atMost then "more" else "fewer") ++ " than " ++ toString limit ++ " " ++
    measured s.measure

/-- What the value must be; the declared types are looked up in the schema as it was given. -/
def describe (schema : Json) (v : Violation) : String :=
  match v.cause with
  | .bound kind limit => "must be " ++ boundSign kind ++ " " ++ limit.write
  | .multipleOf d => "must be multiple of " ++ d.write .positional
  | .size kind limit => sizeText kind limit
  | .required name => "must have required property '" ++ unquote (Json.quote name) ++ "'"
  | .type _ => "must be " ++ declaredTypes (schema.pointer? (pointerOf v.schemaPath))
  | .format name => "must match format \"" ++ name ++ "\""
  | .pattern text => "must match pattern \"" ++ text ++ "\""
  | .enum _ => "must be equal to one of the allowed values"
  | .constant _ => "must be equal to constant"
  | .additionalProperties => "must NOT have additional properties"
  | .uniqueItems => "must NOT have duplicate items"
  | .anyOf => "must match a schema in anyOf"
  | .oneOfNone => "must match exactly one schema in oneOf"
  | .oneOfSeveral => "must match exactly one schema in oneOf"
  | .not _ => "must NOT be valid"
  | .falseSchema => "boolean schema is false"
  | .contains => "must contain at least 1 valid item(s)"
  | _ => v.message

/-- The record of a violation of a schema. -/
def record (schema : Json) (v : Violation) : Record :=
  let pointer := pointerOf v.schemaPath
  ⟨pointerOf v.spot.path, pointer, lastStep pointer, v.describe schema⟩

end MessageContract.Violation

namespace MessageContract

/-- The records of all violations of a compiled schema; `schema` is the schema as it was given. -/
def CompiledSchema.records (c : CompiledSchema) (schema payload : Json) : List Record :=
  (c.violations payload).map (Violation.record schema)

end MessageContract
