import MessageContract.Json.Pointer
import MessageContract.Schema.Metaschema
import MessageContract.Uri.Resolve

/-!
# Resources that schemas refer to

The schemas that can be named: the payload schema, the document it was taken from, the schemas of
schemas, and every schema among them that gives itself a name. Nothing else can be had. References
to other resources are found before anything is checked.
-/

namespace MessageContract

/-- The name of the document that a payload schema was taken from. -/
def documentUri : String := "https://aapi.invalid/asyncapi.json"

/-- The name of a payload schema without a name. -/
def Uri.unnamed : Uri := ⟨some "json-schema", some "", "/", none, none⟩

/-- Why a reference leads nowhere. -/
inductive ReferenceError
  | unresolved (error : Uri.Unresolved)
  /-- A schema asks for what is no draft. -/
  | unknownDraft (uri : String)
  | unavailable (uri : String)
  /-- A resource that was not found when resources were gathered. -/
  | notGathered (uri : String)
  | noValue (pointer : String)
  | badIndex (pointer index : String)
  | badEscape (pointer : String)
  | noAnchor (name : String)
  /-- A name that no anchor can have. -/
  | badAnchor (name : String)

namespace ReferenceError

private def absent (uri reason : String) : String :=
  "Resource '" ++ uri ++ "' is not present in a registry and retrieving it failed: " ++ reason

def message : ReferenceError → String
  | unresolved e => e.message
  | unknownDraft uri => "Unknown specification: " ++ uri
  | unavailable uri => absent uri
      ("'" ++ uri ++ "' is not available: only the AsyncAPI document itself can be referenced")
  | notGathered uri => absent uri
      "Retrieving external resources is not supported once the registry is populated"
  | noValue pointer => "Pointer '" ++ pointer ++ "' does not exist"
  | badIndex pointer index =>
    "Failed to parse array index '" ++ index ++ "' in pointer '" ++ pointer ++ "'"
  | badEscape pointer => "Invalid percent encoding in pointer '" ++ pointer ++
      "': the decoded bytes do not represent valid UTF-8"
  | noAnchor name => "Anchor '" ++ name ++ "' does not exist"
  | badAnchor name => "Anchor '" ++ name ++ "' is invalid"

end ReferenceError

def joined (base : Uri) (text : String) : Except ReferenceError Uri :=
  (base.join text).mapError .unresolved

def detected (around : Draft) (schema : Json) : Except ReferenceError Draft :=
  (around.detect schema).mapError .unknownDraft

/-- A schema, and the draft that it is read by. -/
structure Resource where
  schema : Json
  draft : Draft

/-- The base of the references in a resource, seen from a base. -/
def Resource.base (r : Resource) (around : Uri) : Except ReferenceError Uri :=
  match r.draft.name? r.schema with
  | some name => joined around name
  | none => .ok around

/-- A schema under an anchor. -/
structure Anchored where
  base : String
  anchor : Draft.Anchor
  resource : Resource

/-- Schemas by name, and by name and anchor; the latest of a name counts. -/
structure Resources where
  entries : List (String × Resource)
  anchors : List Anchored

namespace Resources

/-! ## Gathering -/

/-- What is known and what is left to look at. -/
structure Gathering where
  known : Resources
  queue : List (Uri × Resource)
  wanted : List Uri
  /-- The references that were found so far, with their bases. -/
  seen : List (Uri × String)

/-- References to the schemas of schemas, which are always there. -/
def isWellKnown (reference : String) : Bool :=
  ["https://json-schema.org/draft/2020-12/", "https://json-schema.org/draft/2019-09/",
    "http://json-schema.org/draft-07/", "http://json-schema.org/draft-06/",
    "http://json-schema.org/draft-04/"].any fun head => reference.startsWith head

/-- The text behind the first number sign, if there is one, and the text before it. -/
private def cutFragment (reference : String) : String × Option String :=
  let cs := reference.toList
  let front := cs.takeWhile (· != '#')
  (String.ofList front,
    (cs.drop front.length).tail?.map String.ofList)

/-- The resource that a reference names, for having it taken in. The fragment of the base does not
matter here, and a fragment that is not well written leads nowhere. -/
def wantedUri (base : Uri) (reference : String) : Except ReferenceError Uri :=
  if base.fragment.isSome then do
    let (front, fragment) := cutFragment reference
    let u ← joined base.withoutFragment front
    let written := fragment.filter fun f => (Uri.reference ("#" ++ f)).toOption.isSome
    return { u with fragment := written }
  else joined base reference

/-- The references of a schema itself. -/
def ownReferences (schema : Json) : List String :=
  let under (k : String) : Option String := (schema.get? k).bind Json.asString?
  ["$ref", "$schema"].filterMap under

/-- Finds the resources that a schema itself refers to, directly or through references into
itself. -/
def collect (base : Uri) : Nat → Gathering → Json → Except ReferenceError Gathering
  | 0, g, _ => .ok g
  | fuel + 1, g, schema =>
    if base.scheme == some "urn" then .ok g
    else
      (ownReferences schema).foldlM (fun g reference =>
        if isWellKnown reference || g.seen.contains (base, reference) then .ok g
        else
          let g := { g with seen := (base, reference) :: g.seen }
          if reference.startsWith "#" then
            let pointer := String.ofList (reference.toList.dropWhile (· == '#'))
            match schema.pointer? pointer with
            | some v => collect base fuel g v
            | none => .ok g
          else do return { g with wanted := g.wanted ++ [← wantedUri base reference] }) g

/-- As often as references lead from a schema into itself: each of the two references of a value
inside is followed once. -/
def collectAll (base : Uri) (g : Gathering) (schema : Json) :
    Except ReferenceError Gathering :=
  collect base (3 * schema.depth + 3) g schema

/-- Records the anchors of a schema. -/
def withAnchors (base : Uri) (resource : Resource) (r : Resources) : Resources :=
  let found := (resource.draft.anchors resource.schema).map fun a => ⟨base.write, a, resource⟩
  { r with anchors := found.reverse ++ r.anchors }

def withEntry (base : Uri) (resource : Resource) (r : Resources) : Resources :=
  { r with entries := (base.write, resource) :: r.entries }

/-- Looks at a schema inside another. -/
def visitInside (base : Uri) (around : Draft) (g : Gathering) (schema : Json) :
    Except ReferenceError Gathering := do
  let resource : Resource := ⟨schema, ← detected around schema⟩
  let g ← collectAll (← resource.base base) g schema
  return { g with queue := g.queue ++ [(base, resource)] }

/-- Looks at a schema. -/
def visit (g : Gathering) (around : Uri) (resource : Resource) :
    Except ReferenceError Gathering := do
  let base ← resource.base around
  let g := { g with known := withAnchors base resource g.known }
  let g ← collectAll base g resource.schema
  let g ← (resource.draft.inside resource.schema).foldlM (visitInside base resource.draft) g
  if (resource.draft.name? resource.schema).isSome then
    return { g with known := withEntry base resource g.known }
  else return g

/-- Takes in a resource that is referred to. -/
def takeIn (document : Json) (g : Gathering) (uri : Uri) : Except ReferenceError Gathering :=
  let whole := uri.withoutFragment
  if g.known.entries.any (·.1 == whole.write) then .ok g
  else if whole.write == documentUri then do
    let resource : Resource := ⟨document, ← detected .draft7 document⟩
    let known := withEntry whole resource g.known
    match uri.fragment.bind document.pointer? with
    | some v =>
      let pointed : Resource := ⟨v, ← detected .draft7 v⟩
      return { g with known := known, queue := g.queue ++ [(uri, pointed), (whole, resource)] }
    | none => return { g with known := known, queue := g.queue ++ [(whole, resource)] }
  else .error (.unavailable whole.write)

/-- Looks at schemas, then at the resources they want, until nothing is left. -/
def gatherFrom (document : Json) : Nat → Gathering → Except ReferenceError Resources
  | 0, g => .ok g.known
  | fuel + 1, g =>
    match g.queue, g.wanted with
    | (base, resource) :: rest, _ =>
      match visit { g with queue := rest } base resource with
      | .error e => .error e
      | .ok g => gatherFrom document fuel g
    | [], uri :: rest =>
      match takeIn document { g with wanted := rest } uri with
      | .error e => .error e
      | .ok g => gatherFrom document fuel g
    | [], [] => .ok g.known

/-- More than there are schemas and references in values of so many parts. -/
def gatherLimit (count : Nat) : Nat := 8 * count + 8

/-- The schemas of schemas. -/
def standard : Resources :=
  let named := Metaschema.all.filterMap fun (draft, schema) =>
    let resource : Resource := ⟨schema, draft⟩
    ((resource.base .unnamed).toOption).map fun base => (base, resource)
  let known : Resources := named.foldl (fun r e => withEntry e.1 e.2 r) ⟨[], []⟩
  let count := Metaschema.all.foldl (fun n e => n + e.2.count) 0
  ((gatherFrom .null (gatherLimit count) ⟨known, named, [], []⟩).toOption).getD known

/-- The name of a payload schema. -/
def nameOf (schema : Json) : Except ReferenceError Uri :=
  match Draft.draft7.name? schema with
  | none => .ok .unnamed
  | some name => joined .unnamed name

/-- The resources that a payload schema can refer to. -/
def gather (schema document : Json) : Except ReferenceError Resources := do
  let base ← nameOf schema
  let resource : Resource := ⟨schema, .draft7⟩
  let known := withEntry base resource standard
  gatherFrom document (gatherLimit (schema.count + document.count))
    ⟨known, [(base, resource)], [], []⟩

/-! ## Lookup -/

/-- From where references are seen: the base, and the bases of the references on the way here, the
latest first. -/
structure Viewpoint where
  base : Uri
  trail : List Uri

/-- Goes to a resource. -/
def Viewpoint.goTo (v : Viewpoint) (base : Uri) : Viewpoint :=
  ⟨base, if v.trail.isEmpty || base != v.base then v.base :: v.trail else v.trail⟩

/-- Goes into a schema, which may name itself. -/
def Viewpoint.enter (v : Viewpoint) (resource : Resource) : Except ReferenceError Viewpoint := do
  return { v with base := ← resource.base v.base }

/-- The index that a segment of a pointer stands for. -/
def index? (segment : List Char) : Option Nat :=
  let digits := match segment with
    | '+' :: ds => ds
    | ds => ds
  if digits.isEmpty || !digits.all Char.isDigit then none
  else
    let n := digits.foldl (fun n c => n * 10 + (c.toNat - 48)) 0
    if n < Nat.pow 2 64 then some n else none

/-- The value that segments lead to; `steps` are those taken so far. On the way into a schema that
names itself the base changes. -/
def descend (draft : Draft) (pointer : String) : Viewpoint → List Draft.Step → Json →
    List (List Char) → Except ReferenceError (Viewpoint × Json)
  | v, _, value, [] => .ok (v, value)
  | v, steps, value, segment :: rest => do
    let (step, inner) ← match value with
      | .arr items =>
        match index? segment with
        | none => .error (.badIndex pointer (String.ofList segment))
        | some i =>
          match items[i]? with
          | some w => .ok (Draft.Step.index i, w)
          | none => .error (.noValue pointer)
      | value =>
        let name := String.ofList (Pointer.unescape segment)
        match value.get? name with
        | some w => .ok (Draft.Step.name name, w)
        | none => .error (.noValue pointer)
    let steps := steps ++ [step]
    let v ← if draft.reachesSchema inner.isObject steps then v.enter ⟨inner, draft⟩ else .ok v
    descend draft pointer v steps inner rest

private def findAnchor? (r : Resources) (base : Uri) (name : String) : Option Anchored :=
  r.anchors.find? fun a => a.base == base.write && a.anchor.name == name

/-- The schema under an anchor of a resource. -/
def anchored (r : Resources) (base : Uri) (name : String) : Except ReferenceError Anchored := do
  match findAnchor? r base name with
  | some a => .ok a
  | none =>
    let own := (r.entries.lookup base.write).bind fun e => e.draft.name? e.schema
    let found ← match own with
      | some id => do .ok (findAnchor? r (← joined .unnamed id) name)
      | none => .ok none
    match found with
    | some a => .ok a
    | none => .error (if name.contains '/' then .badAnchor name else .noAnchor name)

/-- The schema that an anchor stands for, seen from a viewpoint: for a dynamic one the outermost
schema on the trail with a dynamic anchor of that name. -/
private def follow (r : Resources) (v : Viewpoint) (a : Anchored) :
    Except ReferenceError (Viewpoint × Resource) := do
  if !a.anchor.isDynamic then .ok (v, a.resource)
  else
    let last ← v.trail.foldlM (fun last base =>
      match r.anchored base a.anchor.name with
      | .ok b => .ok (if b.anchor.isDynamic then b.resource else last)
      | .error (.noAnchor _) => .ok last
      | .error e => .error e) a.resource
    return (← v.enter last, last)

/-- The resource and the fragment that a reference names, seen from a base. -/
def target (base : Uri) (reference : String) : Except ReferenceError (Uri × String) :=
  let cs := reference.toList
  match cs with
  | '#' :: fragment => .ok (base, String.ofList fragment)
  | _ =>
    let fragment := (cs.reverse.takeWhile (· != '#')).reverse
    if cs.contains '#' then do
      return (← joined base (String.ofList (cs.take (cs.length - fragment.length - 1))),
        String.ofList fragment)
    else do return (← joined base reference, "")

/-- The schema that a reference leads to, and from where the references in it are seen. -/
def lookup (r : Resources) (v : Viewpoint) (reference : String) :
    Except ReferenceError (Viewpoint × Resource) := do
  let (uri, fragment) ← target v.base reference
  match r.entries.lookup uri.write with
  | none => .error (.notGathered uri.write)
  | some resource =>
    let v := v.goTo uri
    match fragment.toList with
    | [] => .ok (v, resource)
    | '/' :: rest =>
      match Utf8.decode? (Url.decodeBytes rest) with
      | none => .error (.badEscape fragment)
      | some text =>
        let (v, schema) ← descend resource.draft fragment v [] resource.schema
          (Pointer.pieces text.toList)
        return (v, ⟨schema, resource.draft⟩)
    | _ => follow r v (← r.anchored uri fragment)

/-- Whether a schema is an end of recursive references. -/
private def isRecursive (resource : Resource) : Bool :=
  match resource.schema.get? "$recursiveAnchor" with
  | some (.bool b) => b
  | _ => false

/-- The schema that a recursive reference leads to: the outermost on the trail up to which all
schemas are ends of recursive references. -/
def lookupRecursive (r : Resources) (v : Viewpoint) :
    Except ReferenceError (Viewpoint × Resource) := do
  let first ← r.lookup v "#"
  if !isRecursive first.2 then .ok first
  else outermost first v.trail
where
  outermost (best : Viewpoint × Resource) : List Uri → Except ReferenceError (Viewpoint × Resource)
    | [] => .ok best
    | base :: rest => do
      let next ← r.lookup v base.write
      if isRecursive next.2 then outermost next rest else .ok best

end Resources
end MessageContract
