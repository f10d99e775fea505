import MessageContract.Format.Basic
import MessageContract.Regex.Search
import MessageContract.Schema.Violation

/-!
# Keywords

A keyword of a schema object together with its value says one thing about a value. A keyword that is
unknown, or that another one takes care of, says nothing. `properties` and `patternProperties` are
taken care of by `additionalProperties` when that is `false` or an object.
-/

namespace MessageContract

/-- A pattern as it is written, and what it means. -/
structure Pattern where
  text : String
  matcher : Regex.Matcher

/-- How a reference is looked up. -/
inductive ReferenceKind
  | direct
  | recursive
  | dynamic
  deriving DecidableEq, Repr

def ReferenceKind.keyword : ReferenceKind → String
  | direct => "$ref"
  | recursive => "$recursiveRef"
  | dynamic => "$dynamicRef"

/-- What has to hold if a name is there. -/
inductive Dependency
  | names (names : List String)
  | schema (schema : Json)

/-- What a keyword says. -/
inductive Keyword
  | reference (kind : ReferenceKind) (target : String)
  /-- One of several types; strictly, an integer is not written with a fraction or exponent. -/
  | type (names : List TypeName) (strict : Bool)
  | enum (options : List Json)
  | constant (value : Json)
  | bound (kind : Bound) (limit : Number)
  | multipleOf (divisor : Double)
  | size (kind : Size) (limit : Nat)
  | pattern (pattern : Pattern)
  | format (name : String) (format : Format)
  | required (names : List String)
  | uniqueItems
  /-- Items of one schema behind some first ones. -/
  | items (schema : Json) (first : Nat)
  | tuple (keyword : String) (schemas : List Json)
  /-- No items, or items of one schema, behind those of a tuple. -/
  | additionalItems (allowed : Nat) (schema : Option Json)
  /-- No value at all. -/
  | never (keyword : String)
  /-- Some items of one schema; with limits, how many. -/
  | contains (schema : Json) (least most : Option Nat)
  | properties (schemas : Members)
  | patternProperties (schemas : List (Pattern × Json))
  /-- The members of an object: those with a schema by name or pattern, and all others, which may
  have a schema or be forbidden. -/
  | members (named : Members) (patterns : List (Pattern × Json)) (others : Option Json)
  /-- No members at all. -/
  | noMembers
  | propertyNames (schema : Json)
  | dependencies (keyword : String) (entries : List (String × Dependency))
  | allOf (schemas : List Json)
  | anyOf (schemas : List Json)
  | oneOf (schemas : List Json)
  | not (schema : Json)
  | conditional (condition : Json) (yes no : Option Json)
  | contentEncoding (name : String)
  | contentMediaType (name : String)
  | encodedContent (encoding mediaType : String)
  | unevaluatedItems (schema : Json)
  | unevaluatedProperties (schema : Json)

namespace Keyword

/-- A schema inside a keyword, and the steps that lead to it. -/
structure Part where
  path : List String
  schema : Json

def numbered (keyword : String) (schemas : List Json) : List Part :=
  schemas.zipIdx.map fun (s, i) => ⟨[keyword, toString i], s⟩

def namedParts (keyword : String) (schemas : Members) : List Part :=
  schemas.map fun (k, s) => ⟨[keyword, k], s⟩

def patternParts (schemas : List (Pattern × Json)) : List Part :=
  schemas.map fun (p, s) => ⟨["patternProperties", p.text], s⟩

def optional (keyword : String) (schema : Option Json) : List Part :=
  (schema.map fun s => ⟨[keyword], s⟩).toList

/-- The schemas inside a keyword. -/
def parts : Keyword → List Part
  | items s _ => [⟨["items"], s⟩]
  | tuple keyword ss => numbered keyword ss
  | additionalItems _ s => optional "additionalItems" s
  | contains s _ _ => [⟨["contains"], s⟩]
  | properties ms => namedParts "properties" ms
  | patternProperties ps => patternParts ps
  | members named patterns others =>
    patternParts patterns ++ namedParts "properties" named ++ optional "additionalProperties" others
  | propertyNames s => [⟨["propertyNames"], s⟩]
  | dependencies keyword ds => ds.filterMap fun (k, d) =>
    match d with
    | .schema s => some ⟨[keyword, k], s⟩
    | .names _ => none
  | allOf ss => numbered "allOf" ss
  | anyOf ss => numbered "anyOf" ss
  | oneOf ss => numbered "oneOf" ss
  | not s => [⟨["not"], s⟩]
  | conditional s yes no => ⟨["if"], s⟩ :: (optional "then" yes ++ optional "else" no)
  | unevaluatedItems s => [⟨["unevaluatedItems"], s⟩]
  | unevaluatedProperties s => [⟨["unevaluatedProperties"], s⟩]
  | _ => []

end Keyword
end MessageContract
