import MessageContract.Yaml.Event
import MessageContract.Yaml.Scalar
import MessageContract.Text.Debug

/-!
# From events to a YAML value

The one document of a text becomes a value. A fault in the text is told only if everything before
it makes sense. An alias stands for a copy of what its anchor marks; anchors are numbered by how
many names are known when they are met, and an alias means the last node with its number.
-/

namespace MessageContract.Yaml

/-- The way from the root of a document to a value. -/
inductive Path
  | root
  | item (parent : Path) (index : Nat)
  | member (parent : Path) (key : String)
  /-- The value of a key that is not a scalar. -/
  | unnamed (parent : Path)
  deriving DecidableEq, Repr

namespace Path

def write : Path → String
  | .root => "."
  | .item parent n => write parent ++ "[" ++ toString n ++ "]"
  | .member parent key => lead parent ++ key
  | .unnamed parent => lead parent ++ "?"
where
  /-- The text of a parent in front of a name. -/
  lead : Path → String
    | .root => ""
    | .item parent n => write parent ++ "[" ++ toString n ++ "]."
    | .member parent key => lead parent ++ key ++ "."
    | .unnamed parent => lead parent ++ "?."

end Path

/-- Why the events of a document make no value. -/
inductive DataCause
  | notBool (text : String)
  | notInteger (text : String)
  | notDouble (text : String)
  | notNull (text : String)
  | wideInteger (value : Int)
  | duplicateKey (key : Yaml)

def DataCause.message : DataCause → String
  | notBool s => mismatch s "a boolean"
  | notInteger s => mismatch s "an integer"
  | notDouble s => mismatch s "a float"
  | notNull s => mismatch s "null"
  | wideInteger n =>
    "invalid type: integer \x60" ++ toString n ++ "\x60 as " ++
      (if n < 0 then "i128" else "u128") ++
      ", expected any YAML value"
  | duplicateKey key =>
    "duplicate entry " ++
      match key with
      | .null => "with null key"
      | .bool b => "with key \x60" ++ (if b then "true" else "false") ++ "\x60"
      | .int n => "with key " ++ toString n
      | .double d => "with key " ++ writeDouble d
      | .str s => "with key " ++ quoteForMessage s
      | _ => "in YAML map"
where
  mismatch (s expected : String) : String :=
    "invalid value: string " ++ quoteForMessage s ++ ", expected " ++ expected

/-- Why a text is no document. -/
inductive LoadError
  | malformed (fault : Fault)
  | unknownAnchor (mark : Mark)
  | severalDocuments
  | noDocument
  | tooDeep (mark : Mark)
  | tooManyAliases
  | data (path : Path) (mark : Mark) (cause : DataCause)

def LoadError.message : LoadError → String
  | malformed f => f.message
  | unknownAnchor m => "unknown anchor" ++ place m
  | severalDocuments =>
    "deserializing from YAML containing more than one document is not supported"
  | noDocument => "EOF while parsing a value"
  | tooDeep m => "recursion limit exceeded" ++ place m
  | tooManyAliases => "repetition limit exceeded"
  | data path m cause =>
    (if path = .root then "" else path.write ++ ": ") ++ cause.message ++ place m
where
  place (m : Mark) : String := if m.isStart then "" else " at " ++ m.write

/-! ## One document -/

/-- The events of a document with aliases resolved to numbers. -/
inductive Part
  | alias (number : Nat)
  | scalar (tag : Option String) (text : String) (style : Style)
  | sequenceStart (tag : Option String)
  | sequenceEnd
  | mappingStart (tag : Option String)
  | mappingEnd
  /-- The content of an empty text. -/
  | empty

structure Document where
  parts : Array (Part × Mark)
  /-- What is wrong behind the last part. -/
  fault : Option LoadError
  /-- The place of the last node of each anchor number. -/
  targets : List (Nat × Nat)

/-- A document as far as its events are read. -/
structure Draft where
  parts : Array (Part × Mark)
  anchors : List (String × Nat)
  targets : List (Nat × Nat)

namespace Draft

def empty : Draft := ⟨#[], [], []⟩

/-- Numbers the anchor of the next part, if it has one. -/
def anchor (d : Draft) (p : Properties) : Draft :=
  match p.anchor with
  | none => d
  | some name =>
    let number := d.anchors.length
    { d with
      anchors := (name, number) :: d.anchors.filter (·.1 != name)
      targets := (number, d.parts.size) :: d.targets.filter (·.1 != number) }

def push (d : Draft) (part : Part) (mark : Mark) : Draft :=
  { d with parts := d.parts.push (part, mark) }

def finish (d : Draft) (fault : Option LoadError) : Document := ⟨d.parts, fault, d.targets⟩

end Draft

/-- The first document of a list of events, and whether anything but the end follows it. -/
def firstDocument (fault : Option Fault) : List Placed → Draft → Document × Bool
  | [], d => (d.finish (fault.map .malformed), false)
  | (event, mark) :: rest, d =>
    match event with
    | .documentStart => firstDocument fault rest d
    | .documentEnd =>
      let more := match rest with
        | (.streamEnd, _) :: _ => false
        | _ => true
      (d.finish none, more)
    | .streamEnd => ((if d.parts.isEmpty then d.push .empty mark else d).finish none, false)
    | .alias name =>
      match d.anchors.find? (·.1 == name) with
      | some (_, number) => firstDocument fault rest (d.push (.alias number) mark)
      | none => (d.finish (some (.unknownAnchor mark)), false)
    | .scalar p text style =>
      firstDocument fault rest ((d.anchor p).push (.scalar p.tag text style) mark)
    | .sequenceStart p =>
      firstDocument fault rest ((d.anchor p).push (.sequenceStart p.tag) mark)
    | .sequenceEnd => firstDocument fault rest (d.push .sequenceEnd mark)
    | .mappingStart p =>
      firstDocument fault rest ((d.anchor p).push (.mappingStart p.tag) mark)
    | .mappingEnd => firstDocument fault rest (d.push .mappingEnd mark)

/-! ## Values -/

/-- The name of a local tag. -/
def localTag? (tag : Option String) : Option String :=
  match tag.map String.toList with
  | some ('!' :: rest) => some (if rest.isEmpty then "!" else String.ofList rest)
  | _ => none

private def coreTag (name : String) : Option String := some ("tag:yaml.org,2002:" ++ name)

/-- The value of a scalar without a local tag. -/
def scalarValue (tag : Option String) (text : String) (style : Style) :
    Except DataCause Yaml :=
  let settle (m : Scalar.Meaning) : Except DataCause Yaml :=
    match m with
    | .value v => .ok v
    | .wide n => .error (.wideInteger n)
  if tag = coreTag "bool" then
    match Scalar.bool? text with
    | some b => .ok (.bool b)
    | none => .error (.notBool text)
  else if tag = coreTag "int" then
    match Scalar.ofInteger text with
    | some m => settle m
    | none => .error (.notInteger text)
  else if tag = coreTag "float" then
    match Scalar.double? text with
    | some d => .ok (.double d)
    | none => .error (.notDouble text)
  else if tag = coreTag "null" then
    if Scalar.isNull text then .ok .null else .error (.notNull text)
  else if tag.isNone && style = .plain then settle (Scalar.ofPlain text)
  else .ok (.str text)

/-- A value, the place behind it and the number of aliases followed. -/
structure Built (α : Type) where
  value : α
  next : Nat
  jumps : Nat

abbrev Build (α : Type) := Except LoadError (Built α)

namespace Document

/-- The part at a place. -/
def part (d : Document) (pos : Nat) : Except LoadError (Part × Mark) :=
  match d.parts[pos]? with
  | some p => .ok p
  | none => .error (d.fault.getD .noDocument)

mutual

/-- The value at a place; `depth` is the number of collections that may still be opened. -/
def value (d : Document) (fuel depth : Nat) (path : Path) (pos jumps : Nat) : Build Yaml :=
  match fuel with
  | 0 => .error .tooManyAliases
  | fuel + 1 =>
    match d.part pos with
    | .error e => .error e
    | .ok (part, mark) =>
      let tagged (tag : Option String) (b : Built Yaml) : Built Yaml :=
        match localTag? tag with
        | some name => { b with value := .tagged name b.value }
        | none => b
      match part with
      | .alias number =>
        if d.parts.size * 100 < jumps + 1 then .error .tooManyAliases
        else
          let target := ((d.targets.find? (·.1 == number)).map (·.2)).getD d.parts.size
          (d.value fuel depth path target (jumps + 1)).map fun b => { b with next := pos + 1 }
      | .scalar tag text style =>
        let plainTag := if (localTag? tag).isSome then none else tag
        match scalarValue plainTag text style with
        | .ok v => .ok (tagged tag ⟨v, pos + 1, jumps⟩)
        | .error cause => .error (.data path mark cause)
      | .sequenceStart tag =>
        match depth with
        | 0 => .error (.tooDeep mark)
        | depth + 1 =>
          (d.items fuel depth path 0 [] (pos + 1) jumps).map fun b =>
            tagged tag ⟨.seq b.value, b.next, b.jumps⟩
      | .mappingStart tag =>
        match depth with
        | 0 => .error (.tooDeep mark)
        | depth + 1 =>
          (d.entries fuel depth path mark [] (pos + 1) jumps).map fun b =>
            tagged tag ⟨.map b.value, b.next, b.jumps⟩
      | _ => .ok ⟨.null, pos + 1, jumps⟩

/-- The items of a sequence from a place to its end; `acc` holds those before, last first. -/
def items (d : Document) (fuel depth : Nat) (path : Path) (index : Nat) (acc : List Yaml)
    (pos jumps : Nat) : Build (List Yaml) :=
  match fuel with
  | 0 => .error .tooManyAliases
  | fuel + 1 =>
    match d.part pos with
    | .error e => .error e
    | .ok (.sequenceEnd, _) => .ok ⟨acc.reverse, pos + 1, jumps⟩
    | .ok _ =>
      match d.value fuel depth (.item path index) pos jumps with
      | .error e => .error e
      | .ok b => d.items fuel depth path (index + 1) (b.value :: acc) b.next b.jumps

/-- The entries of a mapping from a place to its end. -/
def entries (d : Document) (fuel depth : Nat) (path : Path) (start : Mark)
    (acc : List (Yaml × Yaml)) (pos jumps : Nat) : Build (List (Yaml × Yaml)) :=
  match fuel with
  | 0 => .error .tooManyAliases
  | fuel + 1 =>
    match d.part pos with
    | .error e => .error e
    | .ok (.mappingEnd, _) => .ok ⟨acc.reverse, pos + 1, jumps⟩
    | .ok (part, _) =>
      match d.value fuel depth path pos jumps with
      | .error e => .error e
      | .ok key =>
        if acc.any (fun e => e.1.same key.value) then
          .error (.data path start (.duplicateKey key.value))
        else
          let below := match part with
            | .scalar _ text _ => Path.member path text
            | _ => Path.unnamed path
          match d.value fuel depth below key.next key.jumps with
          | .error e => .error e
          | .ok v => d.entries fuel depth path start ((key.value, v.value) :: acc) v.next v.jumps

end

end Document

/-- How deep collections may be nested. -/
def maxDepth : Nat := 128

/-- The value of a text. -/
def load (text : String) : Except LoadError Yaml := do
  let (es, fault) := events text
  let (d, more) := firstDocument fault es .empty
  let b ← d.value ((maxDepth + 2) * (d.parts.size + 4)) maxDepth .root 0 0
  match d.fault with
  | some e => .error e
  | none => if more then .error .severalDocuments else .ok b.value

end MessageContract.Yaml
