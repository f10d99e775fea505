import MessageContract.Text.Utf8

/-!
# File paths

A path is the bytes it is written with. Two paths are one if their components are: empty
components and `.` do not count, except a `.` at the start of a relative path. `normalize` works
on the text alone: `..` takes back the component before it.
-/

namespace MessageContract

/-- A component of a path. -/
inductive Component
  | root
  | current
  | parent
  | name (bytes : List UInt8)
  deriving DecidableEq, Repr

/-- A path as it is written. -/
structure FilePath where
  bytes : List UInt8
  deriving DecidableEq, Repr

namespace FilePath

def ofString (s : String) : FilePath := ⟨Utf8.encode s⟩

/-- The text of a path, with replacement characters for bytes that are no text. -/
def write (p : FilePath) : String := Utf8.decodeLossy p.bytes

def slash : UInt8 := 0x2F
def dot : UInt8 := 0x2E

def isAbsolute (p : FilePath) : Bool := p.bytes.head? == some slash

/-- The pieces between slashes. -/
def pieces : List UInt8 → List (List UInt8)
  | [] => [[]]
  | b :: rest =>
    if b == slash then [] :: pieces rest
    else
      match pieces rest with
      | [] => [[b]]
      | p :: ps => (b :: p) :: ps

/-- The component of a piece, if it counts. -/
def componentOf? (piece : List UInt8) : Option Component :=
  if piece.isEmpty || piece = [dot] then none
  else if piece = [dot, dot] then some .parent
  else some (.name piece)

/-- The components of a path. -/
def components (p : FilePath) : List Component :=
  let ps := pieces p.bytes
  let inner := ps.filterMap componentOf?
  if p.isAbsolute then .root :: inner
  else if ps.head? = some [dot] then .current :: inner
  else inner

instance : BEq FilePath := ⟨fun p q => p.components == q.components⟩

/-- The bytes of a component. -/
def Component.bytes : Component → List UInt8
  | .root => []
  | .current => [dot]
  | .parent => [dot, dot]
  | .name bytes => bytes

/-- The path written from its components. -/
def ofComponents : List Component → FilePath
  | .root :: rest => ⟨slash :: List.intercalate [slash] (rest.map Component.bytes)⟩
  | cs => ⟨List.intercalate [slash] (cs.map Component.bytes)⟩

/-- The components without the last one; nothing stands above the root or an empty path. -/
def above? (cs : List Component) : Option (List Component) :=
  match cs.getLast? with
  | none => none
  | some .root => none
  | some _ => some cs.dropLast

/-- Goes on from a normalized path by one component. -/
def follow (path : List Component) : Component → List Component
  | .current => path
  | .parent => (above? path).getD (path ++ [.parent])
  | c => path ++ [c]

/-- Components with `.` and `..` taken back. -/
def normalizeComponents (cs : List Component) : List Component := cs.foldl follow []

/-- The path with `.` and `..` taken back. -/
def normalize (p : FilePath) : FilePath := ofComponents (normalizeComponents p.components)

/-- The components of the directory of a path. -/
def directory (p : FilePath) : List Component := (above? p.components).getD []

/-- A path seen from the directory of another one, normalized. -/
def joinTo (base reference : FilePath) : FilePath :=
  if reference.isAbsolute then reference.normalize
  else ofComponents (normalizeComponents (base.directory ++ reference.components))

end FilePath
end MessageContract
