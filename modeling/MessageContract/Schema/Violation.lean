import MessageContract.Json.Printer

/-!
# Violations

One way in which a value fails a schema: what is violated, by which value, where the value stands,
and which steps led to the keyword. A step through a reference counts as a step.
-/

namespace MessageContract

/-- The types a schema can ask for, in the order in which they are listed. -/
inductive TypeName
  | array
  | boolean
  | integer
  | null
  | number
  | object
  | string
  deriving DecidableEq, Repr

namespace TypeName

def all : List TypeName := [array, boolean, integer, null, number, object, string]

def write : TypeName → String
  | array => "array"
  | boolean => "boolean"
  | integer => "integer"
  | null => "null"
  | number => "number"
  | object => "object"
  | string => "string"

def ofText? (s : String) : Option TypeName := all.find? (·.write == s)

end TypeName

/-- Bounds on numbers. -/
inductive Bound
  | minimum
  | maximum
  | exclusiveMinimum
  | exclusiveMaximum
  deriving DecidableEq, Repr

def Bound.keyword : Bound → String
  | minimum => "minimum"
  | maximum => "maximum"
  | exclusiveMinimum => "exclusiveMinimum"
  | exclusiveMaximum => "exclusiveMaximum"

/-- What is counted in a value. -/
inductive Measure
  | characters
  | items
  | properties
  deriving DecidableEq, Repr

/-- Bounds on counts. -/
structure Size where
  measure : Measure
  /-- Whether the count may not exceed the limit; otherwise it may not fall below it. -/
  atMost : Bool
  deriving DecidableEq, Repr

namespace Size

def all : List Size :=
  [⟨.characters, false⟩, ⟨.characters, true⟩, ⟨.items, false⟩, ⟨.items, true⟩,
    ⟨.properties, false⟩, ⟨.properties, true⟩]

def keyword (s : Size) : String :=
  (if s.atMost then "max" else "min") ++
    match s.measure with
    | .characters => "Length"
    | .items => "Items"
    | .properties => "Properties"

def ofKeyword? (keyword : String) : Option Size := all.find? (·.keyword == keyword)

end Size

/-- What is violated. -/
inductive Cause
  | falseSchema
  | type (expected : List TypeName)
  | bound (kind : Bound) (limit : Number)
  | multipleOf (divisor : Double)
  | size (kind : Size) (limit : Nat)
  | required (name : String)
  | format (name : String)
  | pattern (text : String)
  | enum (options : List Json)
  | constant (expected : Json)
  | additionalProperties
  | additionalItems (allowed : Nat)
  | uniqueItems
  | contains
  | anyOf
  | oneOfNone
  | oneOfSeveral
  | not (schema : Json)
  | contentEncoding (name : String)
  | contentMediaType (name : String)
  /-- The content is decoded into bytes that are no text; `valid` of them are well formed, and the
  next `faulty` are not, or none if the text breaks off. -/
  | contentText (valid : Nat) (faulty : Option Nat)
  | unevaluatedItems (items : List Json)
  | unevaluatedProperties (names : List String)
  /-- Looking for a pattern was given up: for going back too often, or else for too many choices. -/
  | gaveUp (wentBack : Bool)
  /-- A keyword holds a value that it cannot hold. -/
  | unexpected
  /-- A name in an object violates the schema for names. -/
  | propertyName (name : String) (cause : Cause)

namespace Cause

private def plural (n : Nat) (one many : String) : String := if n == 1 then one else many

private def sizeMessage (s : Size) (limit : Nat) : String :=
  let comparison := match s.measure, s.atMost with
    | .characters, false => " is shorter than "
    | .characters, true => " is longer than "
    | _, false => " has less than "
    | _, true => " has more than "
  let noun := match s.measure with
    | .characters => plural limit " character" " characters"
    | .items => plural limit " item" " items"
    | .properties => plural limit " property" " properties"
  comparison ++ toString limit ++ noun

private def boundMessage : Bound → String
  | .minimum => " is less than the minimum of "
  | .maximum => " is greater than the maximum of "
  | .exclusiveMinimum => " is less than or equal to the minimum of "
  | .exclusiveMaximum => " is greater than or equal to the maximum of "

private def quoted (names : List String) : String :=
  String.intercalate ", " (names.map fun n => "\"" ++ n ++ "\"")

private def typeMessage (expected : List TypeName) : String :=
  match expected with
  | [t] => " is not of type \"" ++ t.write ++ "\""
  | ts => " is not of types " ++ quoted ((TypeName.all.filter ts.contains).map TypeName.write)

private def itemsFrom (n : Nat) : Json → List Json
  | .arr items => items.drop n
  | _ => []

private def unevaluatedMessage (what : String) (found : List String) : String :=
  "Unevaluated " ++ what ++ " are not allowed (" ++ String.intercalate ", " found ++
    plural found.length " was" " were" ++ " unexpected)"

/-- What is said of a value with a violation. -/
def message : Cause → Json → String
  | falseSchema, v => "False schema does not allow " ++ v.write
  | type expected, v => v.write ++ typeMessage expected
  | bound kind limit, v => v.write ++ boundMessage kind ++ limit.write
  | multipleOf divisor, v => v.write ++ " is not a multiple of " ++ divisor.write .positional
  | size kind limit, v => v.write ++ sizeMessage kind limit
  | required name, _ => Json.quote name ++ " is a required property"
  | format name, v => v.write ++ " is not a \"" ++ name ++ "\""
  | pattern text, v => v.write ++ " does not match \"" ++ text ++ "\""
  | enum options, v => v.write ++ " is not one of " ++ (Json.arr options).write
  | constant expected, _ => expected.write ++ " was expected"
  | additionalProperties, _ => "Additional properties are not allowed"
  | additionalItems allowed, v =>
    let extra := itemsFrom allowed v
    "Additional items are not allowed (" ++ String.intercalate ", " (extra.map Json.write) ++
      plural extra.length " was" " were" ++ " unexpected)"
  | uniqueItems, v => v.write ++ " has non-unique elements"
  | contains, v => "None of " ++ v.write ++ " are valid under the given schema"
  | anyOf, v =>
    v.write ++ " is not valid under any of the schemas listed in the 'anyOf' keyword"
  | oneOfNone, v =>
    v.write ++ " is not valid under any of the schemas listed in the 'oneOf' keyword"
  | oneOfSeveral, v =>
    v.write ++ " is valid under more than one of the schemas listed in the 'oneOf' keyword"
  | not schema, v => schema.write ++ " is not allowed for " ++ v.write
  | contentEncoding name, v => v.write ++ " is not compliant with \"" ++ name ++
      "\" content encoding"
  | contentMediaType name, v => v.write ++ " is not compliant with \"" ++ name ++ "\" media type"
  | contentText valid (some faulty), _ =>
    "invalid utf-8 sequence of " ++ toString faulty ++ " bytes from index " ++ toString valid
  | contentText valid none, _ => "incomplete utf-8 byte sequence from index " ++ toString valid
  | unevaluatedItems items, _ => unevaluatedMessage "items" (items.map Json.write)
  | unevaluatedProperties names, _ =>
    unevaluatedMessage "properties" (names.map fun n => "'" ++ n ++ "'")
  | gaveUp true, _ => "Error executing regex: Max limit for backtracking count exceeded"
  | gaveUp false, _ => "Error executing regex: Max stack size exceeded"
  | unexpected, _ => "Unexpected type"
  | propertyName name cause, _ => cause.message (.str name)

end Cause

/-- A value at its place in the payload. -/
structure Spot where
  value : Json
  path : List String

namespace Spot

/-- The member with a name. -/
def member (s : Spot) (name : String) (value : Json) : Spot := ⟨value, s.path ++ [name]⟩

/-- The item with an index. -/
def item (s : Spot) (index : Nat) (value : Json) : Spot := ⟨value, s.path ++ [toString index]⟩

end Spot

/-- A violation at a place in the payload. -/
structure Violation where
  cause : Cause
  spot : Spot
  schemaPath : List String

def Violation.message (v : Violation) : String := v.cause.message v.spot.value

end MessageContract
