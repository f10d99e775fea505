import MessageContract.Yaml.Basic
import MessageContract.Json.Printer
import MessageContract.Json.Pointer

/-!
# From YAML to JSON

Two ways. `toJson` is for documents: tags are dropped, scalar keys become strings, and what JSON
cannot hold is refused with its place. `represent` is for payloads: a tagged value becomes an
object of one member, and numbers that are not finite become null.
-/

namespace MessageContract.Yaml

/-! ## Documents -/

/-- Why a value has no JSON form. -/
inductive JsonCause
  | keyNotScalar
  | notFinite (value : Double)
  deriving DecidableEq, Repr

/-- A cause and the names that lead to it. -/
structure JsonError where
  path : List String
  cause : JsonCause
  deriving DecidableEq, Repr

/-- The JSON Pointer of a path, or `(root)`. -/
def pointerText (path : List String) : String :=
  if path.isEmpty then "(root)" else String.join (path.map fun s =>
    "/" ++ String.ofList (Pointer.escape s.toList))

def JsonError.message (e : JsonError) : String :=
  pointerText e.path ++ ": " ++
    match e.cause with
    | .keyNotScalar => "mapping keys must be scalars"
    | .notFinite d => writeDouble d ++ " has no JSON representation"

/-- The text of a scalar key. -/
def keyText? : Yaml → Option String
  | .str s => some s
  | .int n => some (toString n)
  | .double d => some (writeDouble d)
  | .bool b => some (if b then "true" else "false")
  | _ => none

mutual

/-- The JSON form of the value at a path. -/
def toJsonAt (path : List String) : Yaml → Except JsonError Json
  | .null => .ok .null
  | .bool b => .ok (.bool b)
  | .int n => .ok (.int n)
  | .double d => if d.isFinite then .ok (.num (.double d)) else .error ⟨path, .notFinite d⟩
  | .str s => .ok (.str s)
  | .seq items => (toJsonItems path 0 items).map .arr
  | .map entries => (toJsonEntries path [] entries).map .obj
  | .tagged _ v => toJsonAt path v

def toJsonItems (path : List String) (index : Nat) : List Yaml → Except JsonError (List Json)
  | [] => .ok []
  | v :: rest =>
    match toJsonAt (path ++ [toString index]) v with
    | .error e => .error e
    | .ok j => (toJsonItems path (index + 1) rest).map (j :: ·)

/-- Adds the entries to the members made from those before. -/
def toJsonEntries (path : List String) (acc : Members) :
    List (Yaml × Yaml) → Except JsonError Members
  | [] => .ok acc
  | (k, v) :: rest =>
    match keyText? k with
    | none => .error ⟨path, .keyNotScalar⟩
    | some name =>
      match toJsonAt (path ++ [name]) v with
      | .error e => .error e
      | .ok j => toJsonEntries path (acc.insert name j) rest

end

/-- The JSON form of a document. -/
def toJson (v : Yaml) : Except JsonError Json := toJsonAt [] v

/-! ## Payloads -/

/-- Why a payload has no JSON form. -/
inductive PayloadError
  | keyNotString
  | keyNotFinite
  deriving DecidableEq, Repr

def PayloadError.message : PayloadError → String
  | keyNotString => "key must be a string"
  | keyNotFinite => "float key must be finite (got NaN or +/-inf)"

/-- The member name for a key. -/
def memberName : Yaml → Except PayloadError String
  | .str s => .ok s
  | .bool b => .ok (if b then "true" else "false")
  | .int n => .ok (toString n)
  | .double d => if d.isFinite then .ok (d.write .json) else .error .keyNotFinite
  | _ => .error .keyNotString

mutual

/-- The JSON form of a payload. -/
def represent : Yaml → Except PayloadError Json
  | .null => .ok .null
  | .bool b => .ok (.bool b)
  | .int n => .ok (.int n)
  | .double d => .ok (if d.isFinite then .num (.double d) else .null)
  | .str s => .ok (.str s)
  | .seq items => (representItems items).map .arr
  | .map entries => (representEntries [] entries).map .obj
  | .tagged tag v => (represent v).map fun j => .obj [("!" ++ bareTag tag, j)]

def representItems : List Yaml → Except PayloadError (List Json)
  | [] => .ok []
  | v :: rest =>
    match represent v with
    | .error e => .error e
    | .ok j => (representItems rest).map (j :: ·)

def representEntries (acc : Members) : List (Yaml × Yaml) → Except PayloadError Members
  | [] => .ok acc
  | (k, v) :: rest =>
    match memberName k with
    | .error e => .error e
    | .ok name =>
      match represent v with
      | .error e => .error e
      | .ok j => representEntries (acc.insert name j) rest

end

end MessageContract.Yaml
