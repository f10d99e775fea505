import MessageContract.Schema.Check

/-!
# Validity by Draft 7

What it means for a value to be valid against a schema of Draft 7, apart from any engine. Some
keywords of a schema object ask for something by themselves (`admits`); the others come down to rules
(`rules`), which apply schemas to the value, to its parts or to its names (`Rule.demands`). A keyword
whose value is not of its kind asks for nothing.
-/

namespace MessageContract.Draft7

/-! ## Values -/

/-- A number by its value. -/
def rational (n : Number) : Rat := mkRat n.value.1 n.value.2

mutual

/-- Whether two values are equal: numbers by value, objects in any order of their members. -/
def equal : Json → Json → Bool
  | .null, .null => true
  | .bool a, .bool b => a == b
  | .num a, .num b => rational a == rational b
  | .str a, .str b => a == b
  | .arr as, .arr bs => equalItems as bs
  | .obj as, .obj bs => as.length == bs.length && equalMembers as bs
  | _, _ => false

def equalItems : List Json → List Json → Bool
  | [], [] => true
  | a :: as, b :: bs => equal a b && equalItems as bs
  | _, _ => false

/-- Each member has its like in the other object. -/
def equalMembers : List (String × Json) → Members → Bool
  | [], _ => true
  | (k, v) :: rest, bs => (bs.get? k).any (equal v) && equalMembers rest bs

end

def itemsOf : Json → List Json
  | .arr items => items
  | _ => []

def membersOf : Json → Members
  | .obj ms => ms
  | _ => []

/-- The texts in a list. -/
def textsOf (v : Json) : List String := (itemsOf v).filterMap Json.asString?

/-- Whether a name has a pattern; what is no pattern fits no name. -/
def fits (pattern name : String) : Bool :=
  (Keyword.pattern? pattern).any fun p => p.matcher.isMatch name

/-! ## Keywords that say something by themselves -/

/-- The number stands to the limit as it should. -/
def compared (holds : Rat → Rat → Bool) (limit v : Json) : Bool :=
  match limit, v with
  | .num l, .num n => holds (rational n) (rational l)
  | _, _ => true

/-- The size, where there is one, stands to the limit as it should. -/
def sized (size? : Json → Option Nat) (holds : Rat → Rat → Bool) (limit v : Json) : Bool :=
  match limit, size? v with
  | .num l, some n => holds n (rational l)
  | _, _ => true

def hasTypeNamed (v : Json) (name : String) : Bool :=
  (TypeName.ofText? name).any fun t => Keyword.hasType false t v

def hasType (types v : Json) : Bool :=
  match types with
  | .str name => hasTypeNamed v name
  | .arr _ => (textsOf types).any (hasTypeNamed v)
  | _ => true

def isListed (options v : Json) : Bool :=
  match options with
  | .arr os => os.any (equal v)
  | _ => true

def isAtLeast : Json → Json → Bool := compared fun n l => l ≤ n
def isAbove : Json → Json → Bool := compared fun n l => l < n
def isAtMost : Json → Json → Bool := compared fun n l => n ≤ l
def isBelow : Json → Json → Bool := compared fun n l => n < l

def isMultiple (divisor v : Json) : Bool :=
  compared (fun n d => d == 0 || (n / d).den == 1) divisor v

def hasPattern (pattern v : Json) : Bool :=
  match pattern, v with
  | .str p, .str s => (Keyword.pattern? p).all fun p => p.matcher.isMatch s
  | _, _ => true

def allUnequal : List Json → Bool
  | [] => true
  | v :: rest => !rest.any (equal v) && allUnequal rest

def hasUniqueItems (flag v : Json) : Bool :=
  match flag with
  | .bool true => allUnequal (itemsOf v)
  | _ => true

def hasRequired (names v : Json) : Bool :=
  match v with
  | .obj ms => (textsOf names).all fun n => (Members.get? ms n).isSome
  | _ => true

/-- Formats that came after Draft 7. -/
def isLater : Format → Bool
  | .uuid => true
  | .duration => true
  | _ => false

def hasFormat (format v : Json) : Bool :=
  match format, v with
  | .str name, .str s => ((Format.ofName? name).filter (!isLater ·)).all (·.accepts s)
  | _, _ => true

def charactersOf (v : Json) : Option Nat := Keyword.measure? .characters v
def itemCountOf (v : Json) : Option Nat := Keyword.measure? .items v
def memberCountOf (v : Json) : Option Nat := Keyword.measure? .properties v

/-- Most keywords that say something by themselves, each with the test that its value makes. -/
def assertions : List (String × (Json → Json → Bool)) :=
  [("const", equal), ("multipleOf", isMultiple),
    ("maxLength", sized charactersOf fun n l => n ≤ l),
    ("minLength", sized charactersOf fun n l => l ≤ n),
    ("pattern", hasPattern), ("format", hasFormat),
    ("maxItems", sized itemCountOf fun n l => n ≤ l),
    ("minItems", sized itemCountOf fun n l => l ≤ n),
    ("uniqueItems", hasUniqueItems),
    ("maxProperties", sized memberCountOf fun n l => n ≤ l),
    ("minProperties", sized memberCountOf fun n l => l ≤ n),
    ("required", hasRequired)]

/-- Whether a text holds what the encoding and the media type beside each other say. -/
def hasContent (encoding mediaType : Option Json) (v : Json) : Bool :=
  match v with
  | .str s =>
    match encoding, mediaType with
    | some (.str e), some (.str m) =>
      !Content.isEncoding e || !Content.isMediaType m || (Content.fault? e m s).isNone
    | some (.str e), none => !Content.isEncoding e || Content.isEncoded s
    | none, some (.str m) => !Content.isMediaType m || Content.isJson s
    | _, _ => true
  | _ => true

/-! ## Rules -/

/-- What a keyword asks for, with the schemas in it. -/
inductive Rule (σ : Type)
  /-- All items behind some first ones. -/
  | items (skip : Nat) (schema : σ)
  | tuple (schemas : List σ)
  | contains (schema : σ)
  | properties (schemas : List (String × σ))
  | patternProperties (schemas : List (String × σ))
  /-- All members without one of the names and patterns. -/
  | additionalProperties (names patterns : List String) (schema : σ)
  | propertyNames (schema : σ)
  | dependencies (entries : List (String × (List String ⊕ σ)))
  | allOf (schemas : List σ)
  | anyOf (schemas : List σ)
  | oneOf (schemas : List σ)
  | not (schema : σ)
  | conditional (condition : σ) (yes no : Option σ)

namespace Rule

variable {σ τ : Type}

/-- The rule with other schemas. -/
def map (f : σ → τ) : Rule σ → Rule τ
  | items skip s => items skip (f s)
  | tuple ss => tuple (ss.map f)
  | contains s => contains (f s)
  | properties ps => properties (ps.map fun p => (p.1, f p.2))
  | patternProperties ps => patternProperties (ps.map fun p => (p.1, f p.2))
  | additionalProperties names patterns s => additionalProperties names patterns (f s)
  | propertyNames s => propertyNames (f s)
  | dependencies ds => dependencies (ds.map fun d => (d.1, Sum.map id f d.2))
  | allOf ss => allOf (ss.map f)
  | anyOf ss => anyOf (ss.map f)
  | oneOf ss => oneOf (ss.map f)
  | not s => not (f s)
  | conditional c yes no => conditional (f c) (yes.map f) (no.map f)

/-- Which schemas are applied to what. -/
def demands (v : Json) : Rule σ → List (σ × Json)
  | items skip s => ((itemsOf v).drop skip).map fun w => (s, w)
  | tuple ss => ss.zip (itemsOf v)
  | contains s => (itemsOf v).map fun w => (s, w)
  | properties ps => ps.filterMap fun p => ((membersOf v).get? p.1).map fun w => (p.2, w)
  | patternProperties ps =>
    ps.flatMap fun p => ((membersOf v).filter (fits p.1 ·.1)).map fun m => (p.2, m.2)
  | additionalProperties names patterns s =>
    ((membersOf v).filter fun m => !names.contains m.1 && !patterns.any (fits · m.1)).map
      fun m => (s, m.2)
  | propertyNames s => (membersOf v).map fun m => (s, .str m.1)
  | dependencies ds => ds.filterMap fun d =>
    if ((membersOf v).get? d.1).isSome then d.2.getRight?.map fun s => (s, v) else none
  | allOf ss => ss.map fun s => (s, v)
  | anyOf ss => ss.map fun s => (s, v)
  | oneOf ss => ss.map fun s => (s, v)
  | not s => [(s, v)]
  | conditional c yes no => (c :: (yes.toList ++ no.toList)).map fun s => (s, v)

/-- The schemas that are applied to the value itself. -/
def inPlace : Rule σ → List σ
  | dependencies ds => ds.filterMap fun d => d.2.getRight?
  | allOf ss => ss
  | anyOf ss => ss
  | oneOf ss => ss
  | not s => [s]
  | conditional c yes no => c :: (yes.toList ++ no.toList)
  | _ => []

/-- The schemas that are applied to parts and names of the value. -/
def below : Rule σ → List σ
  | items _ s => [s]
  | tuple ss => ss
  | contains s => [s]
  | properties ps => ps.map (·.2)
  | patternProperties ps => ps.map (·.2)
  | additionalProperties _ _ s => [s]
  | propertyNames s => [s]
  | _ => []

/-- Whether the rule holds, by what the schemas in it say. -/
def holds (accepts : σ → Json → Bool) (v : Json) : Rule σ → Bool
  | contains s =>
    match v with
    | .arr _ => ((contains s).demands v).any fun d => accepts d.1 d.2
    | _ => true
  | dependencies ds =>
    (ds.all fun d => ((membersOf v).get? d.1).isNone ||
      (d.2.getLeft?.all fun ns => ns.all fun n => ((membersOf v).get? n).isSome)) &&
    ((dependencies ds).demands v).all fun d => accepts d.1 d.2
  | anyOf ss => ss.any (accepts · v)
  | oneOf ss => (ss.countP (accepts · v)) == 1
  | not s => !accepts s v
  | conditional c yes no => if accepts c v then yes.all (accepts · v) else no.all (accepts · v)
  | rule => (rule.demands v).all fun d => accepts d.1 d.2

end Rule

/-! ## Schema objects -/

/-- The keywords of a schema object by name. -/
abbrev Keywords := String → Option Json

/-- Schemas by name; what is no object has none. -/
def schemasOf (keyword : Option Json) : Members := (keyword.map membersOf).getD []

def itemRules (ks : Keywords) : List (Rule Json) :=
  match ks "items" with
  | some (.arr schemas) =>
    .tuple schemas :: ((ks "additionalItems").map (.items schemas.length)).toList
  | some schema => [.items 0 schema]
  | none => []

def memberRules (ks : Keywords) : List (Rule Json) :=
  .properties (schemasOf (ks "properties")) ::
    .patternProperties (schemasOf (ks "patternProperties")) ::
    ((ks "additionalProperties").map (.additionalProperties
      ((schemasOf (ks "properties")).map (·.1))
      ((schemasOf (ks "patternProperties")).map (·.1)))).toList

/-- Names that have to be there, or a schema. -/
def dependency (v : Json) : List String ⊕ Json :=
  match v with
  | .arr _ => .inl (textsOf v)
  | v => .inr v

/-- A rule for a keyword with a list of schemas. -/
def listRule (ks : Keywords) (keyword : String) (rule : List Json → Rule Json) :
    List (Rule Json) :=
  match ks keyword with
  | some (.arr schemas) => [rule schemas]
  | _ => []

/-- What a schema object asks for by the schemas in it. -/
def rules (ks : Keywords) : List (Rule Json) :=
  itemRules ks ++ memberRules ks ++ ((ks "contains").map .contains).toList ++
    ((ks "propertyNames").map .propertyNames).toList ++
    [.dependencies ((schemasOf (ks "dependencies")).map fun d => (d.1, dependency d.2))] ++
    listRule ks "allOf" .allOf ++ listRule ks "anyOf" .anyOf ++ listRule ks "oneOf" .oneOf ++
    ((ks "not").map .not).toList ++
    ((ks "if").map fun c => .conditional c (ks "then") (ks "else")).toList

/-- What most keywords ask for by themselves. -/
def common (ks : Keywords) (v : Json) : Bool :=
  hasContent (ks "contentEncoding") (ks "contentMediaType") v &&
    assertions.all fun a => (ks a.1).all (a.2 · v)

/-- What a schema object asks for by itself. -/
def admits (ks : Keywords) (v : Json) : Bool :=
  (ks "type").all (hasType · v) && (ks "enum").all (isListed · v) &&
    (ks "minimum").all (isAtLeast · v) && (ks "exclusiveMinimum").all (isAbove · v) &&
    (ks "maximum").all (isAtMost · v) && (ks "exclusiveMaximum").all (isBelow · v) && common ks v

end MessageContract.Draft7
