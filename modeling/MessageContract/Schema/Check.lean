import MessageContract.Schema.Keyword.Reader
import MessageContract.Schema.Resources

/-!
# Checking values

The violations of a schema by a value, in the order of the keywords in the schema. A reference
stands for the schema it leads to; in the older drafts what else stands beside it does not count. A
reference that was followed before and leads to a schema with the very same reference says nothing.
-/

namespace MessageContract

/-- The members and items of a value that schemas have looked at. -/
structure Marks where
  names : List String
  items : List Nat

namespace Marks

def none : Marks := ⟨[], []⟩

def append (a b : Marks) : Marks := ⟨a.names ++ b.names, a.items ++ b.items⟩

def join (all : List Marks) : Marks := all.foldl append none

end Marks

/-- What the schemas around a keyword and inside it say. -/
structure Inner where
  /-- The violations of a schema inside the keyword. -/
  check : Keyword.Part → Spot → List Violation
  /-- The violations of a schema that is referred to. -/
  follow : ReferenceKind → String → Spot → List Violation
  /-- What the other keywords have looked at. -/
  marked : Spot → Marks

namespace Keyword

/-! ## Types and bounds -/

/-- Whether a value has a type; integers are numbers without fractional part, or strictly those that
are written as integers. -/
def hasType (strict : Bool) : TypeName → Json → Bool
  | .array, .arr _ => true
  | .boolean, .bool _ => true
  | .integer, .num n => if strict then n.isWritten else n.isInteger
  | .null, .null => true
  | .number, .num _ => true
  | .object, .obj _ => true
  | .string, .str _ => true
  | _, _ => false

/-- Whether a number keeps within a bound. -/
def keepsBound (kind : Bound) (limit n : Number) : Bool :=
  match kind with
  | .minimum => !n.lt limit
  | .maximum => !limit.lt n
  | .exclusiveMinimum => limit.lt n
  | .exclusiveMaximum => n.lt limit

/-- How many characters, items or properties a value has. -/
def measure? (m : Measure) (v : Json) : Option Nat :=
  match m, v with
  | .characters, .str s => some s.length
  | .items, .arr xs => some xs.length
  | .properties, .obj ms => some ms.length
  | _, _ => none

def keepsSize (kind : Size) (limit : Nat) (v : Json) : Bool :=
  match measure? kind.measure v with
  | some n => if kind.atMost then n ≤ limit else limit ≤ n
  | none => true

/-! ## Violations -/

/-- The violation of a keyword, if it does not hold. -/
def demand (holds : Bool) (cause : Cause) (path : List String) (keyword : String)
    (spot : Spot) : List Violation :=
  if holds then [] else [⟨cause, spot, path ++ [keyword]⟩]

def isNumberSuch (p : Number → Bool) : Json → Bool
  | .num n => p n
  | _ => true

def isTextSuch (p : String → Bool) : Json → Bool
  | .str s => p s
  | _ => true

def isListSuch (p : List Json → Bool) : Json → Bool
  | .arr xs => p xs
  | _ => true

/-- The items of a value with their places. -/
def itemSpots (spot : Spot) : List Spot :=
  match spot.value with
  | .arr xs => xs.zipIdx.map fun (v, i) => spot.item i v
  | _ => []

/-- The members of a value. -/
def membersOf (spot : Spot) : Members :=
  match spot.value with
  | .obj ms => ms
  | _ => []

/-- The violation by a text that does not hold a document of a media type. Bytes that are no text
are told without a place. -/
def contentViolations (path : List String) (encoding mediaType : String) (spot : Spot) :
    List Violation :=
  match spot.value with
  | .str s =>
    match Content.fault? encoding mediaType s with
    | some (keyword, cause) =>
      if keyword.isEmpty then [⟨cause, ⟨spot.value, []⟩, []⟩]
      else [⟨cause, spot, path ++ [keyword]⟩]
    | none => []
  | _ => []

def missing (ms : Members) (names : List String) : List String :=
  names.filter fun n => (ms.get? n).isNone

/-- The names that an object has to have and does not. -/
def requiredViolations (path : List String) (keyword : String) (names : List String)
    (spot : Spot) : List Violation :=
  match spot.value with
  | .obj ms => (missing ms names).map fun n => ⟨.required n, spot, path ++ [keyword]⟩
  | _ => []

/-- The violations by the members with a schema by name. -/
def namedViolations (inner : Inner) (named : Members) (name : String) (member : Spot) :
    List Violation :=
  match named.get? name with
  | some s => inner.check ⟨["properties", name], s⟩ member
  | none => []

/-- The schemas of the patterns that a name matches. -/
def matching (patterns : List (Pattern × Json)) (name : String) : List (Pattern × Json) :=
  patterns.filter fun p => p.1.matcher.isMatch name

def patternViolations (inner : Inner) (patterns : List (Pattern × Json)) (member : Spot) :
    List Violation :=
  patterns.flatMap fun p => inner.check ⟨["patternProperties", p.1.text], p.2⟩ member

/-- Whether a name has a schema by name or pattern. -/
def isCovered (named : Members) (patterns : List (Pattern × Json)) (name : String) : Bool :=
  (named.get? name).isSome || !(matching patterns name).isEmpty

def memberViolations (inner : Inner) (named : Members) (patterns : List (Pattern × Json))
    (others : Option Json) (spot : Spot) (name : String) (value : Json) : List Violation :=
  let member := spot.member name value
  namedViolations inner named name member ++
    patternViolations inner (matching patterns name) member ++
    match others with
    | some s =>
      if isCovered named patterns name then [] else inner.check ⟨["additionalProperties"], s⟩ member
    | none => []

def nameViolations (inner : Inner) (path : List String) (schema : Json) (spot : Spot) :
    List Violation :=
  match schema with
  | .bool false =>
    demand (membersOf spot).isEmpty .falseSchema path "propertyNames" spot
  | schema =>
    (membersOf spot).flatMap fun (k, _) =>
      (inner.check ⟨["propertyNames"], schema⟩ ⟨.str k, spot.path⟩).map fun v =>
        ⟨.propertyName k v.cause, spot, v.schemaPath⟩

def dependencyViolations (inner : Inner) (path : List String) (keyword : String)
    (spot : Spot) (name : String) : Dependency → List Violation
  | .names ns => requiredViolations path keyword ns spot
  | .schema s => inner.check ⟨[keyword, name], s⟩ spot

/-- The violation by a text without the pattern, or one in which looking for it was given up. -/
def patternViolation (path : List String) (p : Pattern) (spot : Spot) : List Violation :=
  let violated (cause : Cause) : List Violation := [⟨cause, spot, path ++ ["pattern"]⟩]
  match spot.value with
  | .str s =>
    match p.matcher.search s with
    | .found => []
    | .absent => violated (.pattern p.text)
    | .exhausted => violated (.gaveUp true)
    | .overfull => violated (.gaveUp false)
  | _ => []

def accepts (inner : Inner) (spot : Spot) (p : Part) : Bool := (inner.check p spot).isEmpty

/-- The items that a schema accepts. -/
def acceptedItems (inner : Inner) (part : Part) (spot : Spot) : List Nat :=
  (((itemSpots spot).zipIdx).filter fun (item, _) => accepts inner item part).map (·.2)

/-- The violation by a list with too few or too many items of a schema. One has to be there unless
only a lower limit is given. -/
def containsViolations (inner : Inner) (path : List String) (schema : Json)
    (least most : Option Nat) (spot : Spot) : List Violation :=
  let n := (acceptedItems inner ⟨["contains"], schema⟩ spot).length
  let check (holds : Bool) (steps : List String) : List Violation :=
    if isListSuch (fun _ => holds) spot.value then [] else [⟨.contains, spot, path ++ steps⟩]
  match least, most with
  | none, none => check (0 < n) ["contains"]
  | some l, none => check (l ≤ n) ["minContains"]
  | none, some m => check (0 < n && n ≤ m) ["maxContains"]
  | some l, some m =>
    if m < n then check false ["contains", "maxContains"]
    else check (l ≤ n) ["contains", "minContains"]

def unevaluatedItemViolations (inner : Inner) (path : List String) (schema : Json)
    (spot : Spot) : List Violation :=
  let marked := (inner.marked spot).items
  let found := ((itemSpots spot).zipIdx).filter fun (item, i) =>
    !marked.contains i && !accepts inner item ⟨["unevaluatedItems"], schema⟩
  demand found.isEmpty (.unevaluatedItems (found.map (·.1.value))) path "unevaluatedItems" spot

def unevaluatedMemberViolations (inner : Inner) (path : List String) (schema : Json)
    (spot : Spot) : List Violation :=
  let marked := (inner.marked spot).names
  let found := (membersOf spot).filter fun (k, v) =>
    !marked.contains k && !accepts inner (spot.member k v) ⟨["unevaluatedProperties"], schema⟩
  demand found.isEmpty (.unevaluatedProperties (found.map (·.1))) path "unevaluatedProperties" spot

/-- The violations of a keyword that stands at a path in the schema. -/
def violations (inner : Inner) (path : List String) (spot : Spot) (k : Keyword) : List Violation :=
  let v := spot.value
  match k with
  | reference kind target => inner.follow kind target spot
  | type names strict =>
    demand (names.any (hasType strict · v)) (.type names) path "type" spot
  | enum options => demand (options.any (Json.same · v)) (.enum options) path "enum" spot
  | constant c => demand (Json.isConstant c v) (.constant c) path "const" spot
  | bound kind limit =>
    demand (isNumberSuch (keepsBound kind limit) v) (.bound kind limit) path kind.keyword spot
  | multipleOf d =>
    demand (isNumberSuch (·.isMultipleOf d) v) (.multipleOf d) path "multipleOf" spot
  | size kind limit => demand (keepsSize kind limit v) (.size kind limit) path kind.keyword spot
  | pattern p => patternViolation path p spot
  | format name f => demand (isTextSuch f.accepts v) (.format name) path "format" spot
  | required names => requiredViolations path "required" names spot
  | uniqueItems => demand (isListSuch Json.allDistinct v) .uniqueItems path "uniqueItems" spot
  | items s first => ((itemSpots spot).drop first).flatMap (inner.check ⟨["items"], s⟩)
  | tuple keyword ss =>
    ((ss.zipIdx).zip (itemSpots spot)).flatMap fun ((s, i), item) =>
      inner.check ⟨[keyword, toString i], s⟩ item
  | additionalItems allowed (some s) =>
    ((itemSpots spot).drop allowed).flatMap (inner.check ⟨["additionalItems"], s⟩)
  | additionalItems allowed none =>
    demand (isListSuch (·.length ≤ allowed) v) (.additionalItems allowed) path "additionalItems"
      spot
  | never keyword => [⟨.falseSchema, spot, path ++ [keyword]⟩]
  | contains s least most => containsViolations inner path s least most spot
  | properties named =>
    named.flatMap fun (name, s) =>
      match (membersOf spot).get? name with
      | some value => inner.check ⟨["properties", name], s⟩ (spot.member name value)
      | none => []
  | patternProperties patterns =>
    patterns.flatMap fun p =>
      ((membersOf spot).filter fun m => p.1.matcher.isMatch m.1).flatMap fun (name, value) =>
        inner.check ⟨["patternProperties", p.1.text], p.2⟩ (spot.member name value)
  | members named patterns others =>
    let ms := membersOf spot
    ms.flatMap (fun m => memberViolations inner named patterns others spot m.1 m.2) ++
      demand (others.isSome || ms.all (fun m => isCovered named patterns m.1))
        .additionalProperties path "additionalProperties" spot
  | noMembers =>
    match membersOf spot with
    | [] => []
    | (_, value) :: _ => [⟨.falseSchema, ⟨value, spot.path⟩, path ++ ["additionalProperties"]⟩]
  | propertyNames s => nameViolations inner path s spot
  | dependencies keyword entries =>
    entries.flatMap fun (name, d) =>
      if ((membersOf spot).get? name).isSome then
        dependencyViolations inner path keyword spot name d
      else []
  | allOf ss => (Keyword.allOf ss).parts.flatMap (inner.check · spot)
  | anyOf ss => demand ((Keyword.anyOf ss).parts.any (accepts inner spot)) .anyOf path "anyOf" spot
  | oneOf ss =>
    match ((Keyword.oneOf ss).parts.filter (accepts inner spot)).length with
    | 0 => [⟨.oneOfNone, spot, path ++ ["oneOf"]⟩]
    | 1 => []
    | _ => [⟨.oneOfSeveral, spot, path ++ ["oneOf"]⟩]
  | not s => demand (!accepts inner spot ⟨["not"], s⟩) (.not s) path "not" spot
  | conditional condition yes no =>
    if accepts inner spot ⟨["if"], condition⟩ then
      (yes.map fun s => inner.check ⟨["then"], s⟩ spot).getD []
    else (no.map fun s => inner.check ⟨["else"], s⟩ spot).getD []
  | contentEncoding name =>
    demand (isTextSuch Content.isEncoded v) (.contentEncoding name) path "contentEncoding" spot
  | contentMediaType name =>
    demand (isTextSuch Content.isJson v) (.contentMediaType name) path "contentMediaType" spot
  | encodedContent encoding mediaType => contentViolations path encoding mediaType spot
  | unevaluatedItems s => unevaluatedItemViolations inner path s spot
  | unevaluatedProperties s => unevaluatedMemberViolations inner path s spot

/-! ## Marks -/

/-- What the schemas inside a keyword, and those it refers to, have looked at. -/
structure Traces where
  inside : Part → Spot → Marks
  follow : ReferenceKind → String → Spot → Marks

/-- The members that pass a test. -/
def namesSuch (spot : Spot) (p : String → Spot → Bool) : Marks :=
  ⟨((membersOf spot).filter fun (k, v) => p k (spot.member k v)).map (·.1), []⟩

def itemsFrom (spot : Spot) (first : Nat) : Marks :=
  ⟨[], (List.range (itemSpots spot).length).filter (first ≤ ·)⟩

def isNamed (inner : Inner) (named : Members) (name : String) (member : Spot) : Bool :=
  (named.get? name).any fun s => accepts inner member ⟨["properties", name], s⟩

def isMatched (inner : Inner) (patterns : List (Pattern × Json)) (name : String)
    (member : Spot) : Bool :=
  (matching patterns name).any fun (p, s) =>
    accepts inner member ⟨["patternProperties", p.text], s⟩

/-- What the schemas among some that accept a value have looked at. -/
def acceptedMarks (inner : Inner) (traces : Traces) (parts : List Part) (spot : Spot) :
    Marks :=
  .join ((parts.filter (accepts inner spot)).map (traces.inside · spot))

/-- What a keyword has looked at; items that are only counted are looked at in the last draft. -/
def marks (d : Draft) (inner : Inner) (traces : Traces) (spot : Spot) (k : Keyword) : Marks :=
  match k with
  | reference kind target => traces.follow kind target spot
  | properties named => namesSuch spot (isNamed inner named)
  | patternProperties patterns => namesSuch spot (isMatched inner patterns)
  | members named patterns others => namesSuch spot fun name member =>
      isNamed inner named name member || isMatched inner patterns name member ||
        others.any fun s => accepts inner member ⟨["additionalProperties"], s⟩
  | unevaluatedProperties s => namesSuch spot fun _ member =>
      accepts inner member ⟨["unevaluatedProperties"], s⟩
  | dependencies keyword entries =>
    .join (entries.map fun (name, dep) =>
      match dep with
      | .schema s =>
        if ((membersOf spot).get? name).isSome then traces.inside ⟨[keyword, name], s⟩ spot
        else .none
      | .names _ => .none)
  | items _ _ => itemsFrom spot 0
  | tuple _ ss => ⟨[], List.range ss.length⟩
  | additionalItems allowed _ => itemsFrom spot allowed
  | contains s _ _ =>
    if d == .draft2020 then ⟨[], acceptedItems inner ⟨["contains"], s⟩ spot⟩ else .none
  | unevaluatedItems s => ⟨[], acceptedItems inner ⟨["unevaluatedItems"], s⟩ spot⟩
  | allOf ss => acceptedMarks inner traces (Keyword.allOf ss).parts spot
  | anyOf ss => acceptedMarks inner traces (Keyword.anyOf ss).parts spot
  | oneOf ss => acceptedMarks inner traces (Keyword.oneOf ss).parts spot
  | _ => .none

/-- What keywords that allow everything have looked at. -/
def openMarks (parent : Members) (spot : Spot) : Marks :=
  let isOpen (keyword : String) : Bool :=
    match parent.get? keyword with
    | some (.bool b) => b
    | _ => false
  Marks.append (if isOpen "additionalProperties" then namesSuch spot fun _ _ => true else .none)
    (if isOpen "additionalItems" && (parent.get? "items").isSome then itemsFrom spot 0 else .none)

/-- What the schemas of a condition have looked at, be there branches or not. -/
def conditionMarks (inner : Inner) (traces : Traces) (parent : Members) (spot : Spot) : Marks :=
  let branch (keyword : String) : Marks :=
    match parent.get? keyword with
    | some (.obj ms) => traces.inside ⟨[keyword], .obj ms⟩ spot
    | _ => .none
  match parent.get? "if" with
  | some (.obj ms) =>
    if accepts inner spot ⟨["if"], .obj ms⟩ then (branch "if").append (branch "then")
    else branch "else"
  | _ => .none

/-- Whether a keyword is about what no other has looked at. -/
def isUnevaluated : Keyword → Bool
  | unevaluatedItems _ => true
  | unevaluatedProperties _ => true
  | _ => false

end Keyword

/-- Where a schema stands: from where references in it are seen, the dialect it is in, the steps
that led to it, and the references that were followed on the way. -/
structure Scope where
  view : Resources.Viewpoint
  dialect : Dialect
  path : List String
  followed : List String

namespace Scope

/-- Goes to a schema inside; a schema that asks for what is no draft is read by the last one. -/
def into (scope : Scope) (p : Keyword.Part) : Except ReferenceError Scope := do
  let draft := ((scope.dialect.draft.detect p.schema).toOption).getD .draft2020
  return { scope with
    view := ← scope.view.enter ⟨p.schema, draft⟩
    dialect := { scope.dialect with draft := draft }
    path := scope.path ++ p.path }

/-- The same without a name that leads nowhere. -/
def intoAnyway (scope : Scope) (p : Keyword.Part) : Scope :=
  match scope.into p with
  | .ok s => s
  | .error _ => { scope with path := scope.path ++ p.path }

/-- The whole name that a reference stands for. -/
def absolute (scope : Scope) (target : String) : String :=
  match Resources.target scope.view.base target with
  | .ok (uri, fragment) => uri.write ++ "#" ++ fragment
  | .error _ => target

/-- Whether a reference was followed before. -/
def hasFollowed (scope : Scope) (target : String) : Bool :=
  scope.followed.contains (scope.absolute target)

end Scope

/-- The dialect of a resource as a whole: the vocabularies are those of the draft that its schema
asks for. -/
def Resource.dialect (r : Resource) : Dialect :=
  ⟨r.draft, (((r.draft.detect r.schema).toOption).getD r.draft).vocabularies⟩

/-- The keywords of a schema object that count. -/
def Dialect.entries (d : Dialect) (ms : Members) : Members :=
  if d.allowsSiblings then ms
  else
    match ms.get? "$ref" with
    | some v => [("$ref", v)]
    | none => ms

/-- What a schema object says. -/
def Dialect.keywords (d : Dialect) (ms : Members) : List Keyword :=
  (d.entries ms).filterMap fun m =>
    match Keyword.read d ms m.1 m.2 with
    | .ok k => k
    | .error _ => none

namespace Resources

/-- The schema that a reference leads to, and where it stands. Where a reference was followed
before, those on the way to it no longer count. -/
def resolve (r : Resources) (scope : Scope) (kind : ReferenceKind) (target : String) :
    Except ReferenceError (Scope × Json) := do
  let (view, resource) ← match kind with
    | .recursive => r.lookupRecursive scope.view
    | _ => r.lookup scope.view target
  let followed :=
    if kind == .recursive || scope.hasFollowed target then []
    else scope.absolute target :: scope.followed
  return (⟨view, resource.dialect, scope.path ++ [kind.keyword], followed⟩, resource.schema)

/-- Whether a reference that was followed before leads to a schema with the same reference. -/
def isIdle (scope : Scope) (kind : ReferenceKind) (target : String) (schema : Json) : Bool :=
  kind != .recursive && scope.hasFollowed target &&
    (schema.get? kind.keyword).bind Json.asString? == some target

mutual

/-- The violations of a schema by a value. -/
def violations (r : Resources) : Nat → Scope → Json → Spot → List Violation
  | 0, _, _, _ => []
  | fuel + 1, scope, schema, spot =>
    match schema with
    | .bool false => [⟨.falseSchema, spot, scope.path⟩]
    | .obj ms =>
      let inner : Inner :=
        { check := fun p s => violations r fuel (scope.intoAnyway p) p.schema s
          follow := fun kind target s =>
            match r.resolve scope kind target with
            | .ok (inner, schema) =>
              if isIdle scope kind target schema then [] else violations r fuel inner schema s
            | .error _ => []
          marked := fun s => marks r fuel true { scope with followed := [] } schema s }
      (scope.dialect.keywords ms).flatMap (Keyword.violations inner scope.path spot)
    | _ => []

/-- What a schema has looked at in a value; `others` leaves out the keywords that are about what no
other has looked at. -/
def marks (r : Resources) : Nat → Bool → Scope → Json → Spot → Marks
  | 0, _, _, _, _ => .none
  | fuel + 1, others, scope, schema, spot =>
    match schema with
    | .obj ms =>
      let inner : Inner :=
        { check := fun p s =>
            violations r fuel { scope.intoAnyway p with followed := [] } p.schema s
          follow := fun _ _ _ => []
          marked := fun _ => .none }
      let traces : Keyword.Traces :=
        { inside := fun p s => marks r fuel false (scope.intoAnyway p) p.schema s
          follow := fun kind target s =>
            if scope.hasFollowed target then .none
            else
              match r.resolve scope kind target with
              | .ok (scope, schema) => marks r fuel false scope schema s
              | .error _ => .none }
      let keywords := (scope.dialect.keywords ms).filter fun k => !(others && k.isUnevaluated)
      .join (Keyword.openMarks ms spot :: Keyword.conditionMarks inner traces ms spot ::
        keywords.map (Keyword.marks scope.dialect.draft inner traces spot))
    | _ => .none

end

/-- The number of schemas among the resources, and of all else in them. -/
def count (r : Resources) : Nat := r.entries.foldl (fun n e => n + e.2.schema.count) 0

/-- Enough for every chain of schemas that ends. -/
def budget (r : Resources) (v : Json) : Nat := (v.depth + 1) * (r.count + 2)

end Resources
end MessageContract
