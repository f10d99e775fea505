import MessageContract.Json.Number
import MessageContract.Schema.Content
import MessageContract.Schema.Draft
import MessageContract.Schema.Keyword.Basic

/-!
# Reading keywords

Reading a keyword checks its value. What a value has to be depends on the draft.
-/

namespace MessageContract

/-- A keyword whose value is not what it should be. -/
structure KeywordError where
  cause : Cause
  value : Json

namespace Keyword

abbrev Read := Except KeywordError (Option Keyword)

def silent : Read := .ok none

def fail {α : Type} (cause : Cause) (value : Json) : Except KeywordError α :=
  .error ⟨cause, value⟩

def mistyped {α : Type} (types : List TypeName) (value : Json) : Except KeywordError α :=
  fail (.type types) value

/-! ## Values -/

def readText (value : Json) (k : String → Read) : Read :=
  match value with
  | .str s => k s
  | v => mistyped [.string] v

def readNumber (value : Json) (k : Number → Read) : Read :=
  match value with
  | .num n => k n
  | v => mistyped [.number] v

def readMembers (value : Json) (k : Members → Read) : Read :=
  match value with
  | .obj ms => k ms
  | v => mistyped [.object] v

def readItems (value : Json) (k : List Json → Read) : Read :=
  match value with
  | .arr xs => k xs
  | v => mistyped [.array] v

def readName (value : Json) : Except KeywordError String :=
  match value with
  | .str s => .ok s
  | v => mistyped [.string] v

def readNames (value : Json) : Except KeywordError (List String) :=
  match value with
  | .arr xs => xs.mapM readName
  | v => mistyped [.array] v

/-- Names without repetition. -/
def readDistinctNames (value : Json) : Except KeywordError (List String) :=
  match value with
  | .arr xs => if Json.allDistinct xs then readNames value else fail .uniqueItems value
  | v => mistyped [.array] v

/-! ## Types and limits -/

/-- The name of a type in a list of several. -/
def typeName (v : Json) : Except KeywordError TypeName :=
  match v with
  | .str s =>
    match TypeName.ofText? s with
    | some t => .ok t
    | none => fail (.enum (TypeName.all.map fun t => .str t.write)) v
  | v => mistyped [.string] v

/-- The name of a type on its own. -/
def soleType (d : Dialect) (value : Json) : Read :=
  readText value fun s =>
    match TypeName.ofText? s with
    | some t => .ok (some (.type [t] (d.draft == .draft4)))
    | none => fail .unexpected value

def readType (d : Dialect) (value : Json) : Read :=
  match value with
  | .str _ => soleType d value
  | .arr [name] => soleType d name
  | .arr names => (names.mapM typeName).map fun ts => some (.type ts (d.draft == .draft4))
  | v => mistyped [.array, .string] v

/-- A limit that is no count of 64 bits: an integer is negative, anything else is none. -/
def badLimit {α : Type} (value : Json) : Except KeywordError α :=
  match value with
  | .num (.int _) => fail (.bound .minimum (.int 0)) value
  | v => mistyped [.integer] v

/-- The largest count. -/
def largestCount : Nat := Nat.pow 2 64 - 1

/-- A double without fractional part as a count: cut to what 64 bits hold. -/
def countOf? (d : Double) : Option Nat := d.toInt?.map fun n => min n.toNat largestCount

/-- The limit of a size. Since Draft 6 it may be a double without fractional part, and what is
negative counts as zero. -/
def readLimit (d : Dialect) (value : Json) : Except KeywordError Nat :=
  match value with
  | .num (.int n) =>
    if 0 ≤ n then .ok n.toNat else if d.draft.isSince .draft6 then .ok 0 else badLimit value
  | .num (.double x) =>
    match if d.draft.isSince .draft6 then countOf? x else none with
    | some n => .ok n
    | none => badLimit value
  | v => badLimit v

/-- How many items a `contains` keyword asks for. -/
def readCount (value : Json) : Except KeywordError Nat :=
  match value with
  | .num (.int n) => if 0 ≤ n then .ok n.toNat else badLimit value
  | .num (.double x) =>
    match countOf? x with
    | some n => .ok n
    | none => badLimit value
  | v => badLimit v

def readSize (d : Dialect) (kind : Size) (value : Json) : Read :=
  (readLimit d value).map fun n => some (.size kind n)

/-- A bound; in Draft 4 another keyword says whether it is excluded. -/
def readBound (d : Dialect) (parent : Members) (kind exclusive : Bound) (value : Json) :
    Read :=
  readNumber value fun n =>
    match d.draft, parent.get? exclusive.keyword with
    | .draft4, some (.bool true) => .ok (some (.bound exclusive n))
    | _, _ => .ok (some (.bound kind n))

/-! ## Texts -/

def pattern? (text : String) : Option Pattern :=
  (Regex.Matcher.ofText? text).map fun m => ⟨text, m⟩

def readPattern (value : Json) : Read :=
  readText value fun s =>
    match pattern? s with
    | some p => .ok (some (.pattern p))
    | none => fail (.format "regex") value

/-- The draft that names a format first. -/
def formatSince : Format → Draft
  | .idnHostname => .draft7
  | .iri => .draft7
  | .iriReference => .draft7
  | .relativeJsonPointer => .draft7
  | .jsonPointer => .draft6
  | .uriReference => .draft6
  | .uriTemplate => .draft6
  | .uuid => .draft2019
  | .duration => .draft2019
  | _ => .draft4

def readFormat (d : Dialect) (value : Json) : Read :=
  readText value fun s =>
    .ok (((Format.ofName? s).filter fun f => d.draft.isSince (formatSince f)).map (.format s))

def readMediaType (parent : Members) (name : String) : Read :=
  if !Content.isMediaType name then silent
  else
    match parent.get? "contentEncoding" with
    | none => .ok (some (.contentMediaType name))
    | some v => readText v fun encoding =>
      if Content.isEncoding encoding then .ok (some (.encodedContent encoding name)) else silent

def readEncoding (parent : Members) (value : Json) : Read :=
  if (parent.get? "contentMediaType").isSome then silent
  else readText value fun s =>
    .ok (if Content.isEncoding s then some (.contentEncoding s) else none)

/-! ## Items -/

/-- How many items a keyword in front takes care of. -/
def firstItems (parent : Members) : Nat :=
  match parent.get? "prefixItems" with
  | some (.arr xs) => xs.length
  | _ => 0

def readItemsKeyword (parent : Members) (value : Json) : Read :=
  match value with
  | .arr schemas => .ok (some (.tuple "items" schemas))
  | .obj _ => .ok (some (.items value (firstItems parent)))
  | .bool _ => .ok (some (.items value (firstItems parent)))
  | _ => silent

/-- What follows the items of a tuple. Where no items are allowed, no value is. -/
def readAdditionalItems (parent : Members) (value : Json) : Read :=
  match parent.get? "items", value with
  | none, _ => silent
  | some (.obj _), _ => silent
  | some (.bool true), _ => silent
  | some (.bool false), _ => .ok (some (.never "additionalItems"))
  | some (.arr xs), .obj _ => .ok (some (.additionalItems xs.length (some value)))
  | some (.arr xs), .bool false => .ok (some (.additionalItems xs.length none))
  | some (.arr _), _ => silent
  | some _, v => mistyped [.array, .boolean, .object] v

def readContains (d : Dialect) (parent : Members) (value : Json) : Read :=
  if d.draft.isSince .draft2019 then do
    let count (keyword : String) : Except KeywordError (Option Nat) :=
      match parent.get? keyword with
      | some v => (readCount v).map some
      | none => .ok none
    let least ← count "minContains"
    let most ← count "maxContains"
    return some (.contains value least most)
  else .ok (some (.contains value none none))

def readUniqueItems (value : Json) : Read :=
  match value with
  | .bool true => .ok (some .uniqueItems)
  | _ => silent

/-! ## Members -/

/-- Whether `additionalProperties` takes care of all members of an object. -/
def isComprehensive (parent : Members) : Bool :=
  match parent.get? "additionalProperties" with
  | some (.bool false) => true
  | some (.obj _) => true
  | _ => false

/-- A schema for the members whose name has a pattern; a fault is in the schema. -/
def readPatternEntry (entry : String × Json) : Except KeywordError (Pattern × Json) :=
  match pattern? entry.1 with
  | some p => .ok (p, entry.2)
  | none => fail (.format "regex") entry.2

def readPatterns (value : Json) : Except KeywordError (List (Pattern × Json)) :=
  match value with
  | .obj ms => ms.mapM readPatternEntry
  | v => mistyped [.object] v

def readPropertyNames (value : Json) : Read :=
  match value with
  | .obj _ => .ok (some (.propertyNames value))
  | .bool false => .ok (some (.propertyNames value))
  | _ => silent

/-- The patterns that `additionalProperties` takes care of. -/
def coveredPatterns (parent : Members) (value : Json) :
    Except KeywordError (List (Pattern × Json)) :=
  match parent.get? "patternProperties" with
  | none => .ok []
  | some (.obj ms) => ms.mapM readPatternEntry
  | some _ => mistyped [.object] value

/-- The names that `additionalProperties` takes care of. -/
def coveredNames (parent : Members) : Except KeywordError Members :=
  match parent.get? "properties" with
  | none => .ok []
  | some (.obj ms) => .ok ms
  | some v => fail .unexpected v

/-- Whether members have schemas by name or pattern. -/
def hasMemberRules (parent : Members) : Bool :=
  (parent.get? "patternProperties").isSome || (parent.get? "properties").isSome

def readAdditionalProperties (parent : Members) (value : Json) : Read := do
  let patterns ← coveredPatterns parent value
  match value with
  | .bool true => silent
  | .bool false =>
    if hasMemberRules parent then return some (.members (← coveredNames parent) patterns none)
    else return some .noMembers
  | v => return some (.members (← coveredNames parent) patterns (some v))

/-- A dependency; in the newer drafts names and schemas have a keyword each. -/
def readDependency (keyword : String) (value : Json) : Except KeywordError Dependency :=
  match keyword, value with
  | "dependentRequired", v => (readDistinctNames v).map .names
  | "dependencies", .arr _ => (readNames value).map .names
  | _, v => .ok (.schema v)

def readDependencies (keyword : String) (value : Json) : Read :=
  readMembers value fun ms => do
    let entries ← ms.mapM fun (k, v) => (readDependency keyword v).map fun dep => (k, dep)
    return some (.dependencies keyword entries)

def readCondition (parent : Members) (value : Json) : Read :=
  match parent.get? "then", parent.get? "else" with
  | none, none => silent
  | yes, no => .ok (some (.conditional value yes no))

/-! ## All keywords -/

def readKnown (d : Dialect) (parent : Members) (keyword : String) (value : Json) : Read :=
  match keyword with
  | "$ref" => readText value fun s => .ok (some (.reference .direct s))
  | "$recursiveRef" => readText value fun s => .ok (some (.reference .recursive s))
  | "$dynamicRef" => readText value fun s => .ok (some (.reference .dynamic s))
  | "type" => readType d value
  | "enum" => readItems value fun options => .ok (some (.enum options))
  | "const" => .ok (some (.constant value))
  | "minimum" => readBound d parent .minimum .exclusiveMinimum value
  | "maximum" => readBound d parent .maximum .exclusiveMaximum value
  | "exclusiveMinimum" => readNumber value fun n => .ok (some (.bound .exclusiveMinimum n))
  | "exclusiveMaximum" => readNumber value fun n => .ok (some (.bound .exclusiveMaximum n))
  | "multipleOf" => readNumber value fun n => .ok (some (.multipleOf n.toDouble))
  | "pattern" => readPattern value
  | "format" => readFormat d value
  | "required" => (readNames value).map fun ns => some (.required ns)
  | "uniqueItems" => readUniqueItems value
  | "items" => readItemsKeyword parent value
  | "prefixItems" => readItems value fun ss => .ok (some (.tuple "prefixItems" ss))
  | "additionalItems" => readAdditionalItems parent value
  | "contains" => readContains d parent value
  | "properties" =>
    if isComprehensive parent then silent
    else readMembers value fun ms => .ok (some (.properties ms))
  | "patternProperties" =>
    if isComprehensive parent then silent
    else (readPatterns value).map fun ps => some (.patternProperties ps)
  | "additionalProperties" => readAdditionalProperties parent value
  | "propertyNames" => readPropertyNames value
  | "dependencies" => readDependencies keyword value
  | "dependentRequired" => readDependencies keyword value
  | "dependentSchemas" => readDependencies keyword value
  | "allOf" => readItems value fun ss => .ok (some (.allOf ss))
  | "anyOf" => readItems value fun ss => .ok (some (.anyOf ss))
  | "oneOf" => readItems value fun ss => .ok (some (.oneOf ss))
  | "not" => .ok (some (.not value))
  | "if" => readCondition parent value
  | "contentEncoding" => readEncoding parent value
  | "contentMediaType" => readText value (readMediaType parent)
  | "unevaluatedItems" => .ok (some (.unevaluatedItems value))
  | "unevaluatedProperties" => .ok (some (.unevaluatedProperties value))
  | _ =>
    match Size.ofKeyword? keyword with
    | some kind => readSize d kind value
    | none => silent

/-- What a keyword of a schema object says. -/
def read (d : Dialect) (parent : Members) (keyword : String) (value : Json) : Read :=
  if d.knows keyword then readKnown d parent keyword value else silent

/-! ## Faults and parts in order -/

/-- A fault in a keyword, or a schema inside it. -/
abbrev Content := Except KeywordError Part

def patternContents (ms : Members) : List Content :=
  ms.flatMap fun entry =>
    match readPatternEntry entry with
    | .ok _ => [.ok ⟨["patternProperties", entry.1], entry.2⟩]
    | .error e => [.error e]

def dependencyContent (keyword : String) (entry : String × Json) : List Content :=
  match readDependency keyword entry.2 with
  | .ok (.schema s) => [.ok ⟨[keyword, entry.1], s⟩]
  | .ok (.names _) => []
  | .error e => [.error e]

/-- The faults and the schemas in a keyword, in the order in which they are met. -/
def contents (d : Dialect) (parent : Members) (keyword : String) (value : Json) : List Content :=
  let all : List Content :=
    match read d parent keyword value with
    | .ok none => []
    | .ok (some k) => k.parts.map .ok
    | .error e => [.error e]
  if !d.knows keyword then []
  else
    match keyword, value, parent.get? "patternProperties" with
    | "patternProperties", .obj ms, _ =>
      if isComprehensive parent then [] else patternContents ms
    | "additionalProperties", .bool true, some (.obj ms) => patternContents ms
    | "additionalProperties", v, some (.obj ms) =>
      patternContents ms ++ match coveredNames parent with
        | .error e => [.error e]
        | .ok named =>
          ((Keyword.members named [] (if v.isBool then none else some v)).parts).map .ok
    | "dependencies", .obj ms, _ => ms.flatMap (dependencyContent keyword)
    | _, _, _ => all

end Keyword
end MessageContract
