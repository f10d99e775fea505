import MessageContract.FilePath
import MessageContract.Url.Parser

/-!
# The world documents are read from

Files and directories of one machine as seen from a working directory, and a network that answers
requests or cannot be reached.
-/

namespace MessageContract

/-- What stands at a place in the file tree. -/
inductive Entry
  | file (bytes : List UInt8)
  | directory

/-- The names from the root to a place. -/
abbrev Place := List (List UInt8)

/-- An answer to a request. -/
structure Response where
  status : Nat
  body : List UInt8
  /-- Where a redirection leads. -/
  redirect : Option String
  /-- The connection ends without an answer. -/
  closes : Bool
  /-- The body is the name under which the client presents itself. -/
  echoesAgent : Bool

/-- The place of a path seen from a directory, with `..` taken back. -/
def FilePath.place (here : Place) (path : FilePath) : Place :=
  (pieces path.bytes).foldl
    (fun place piece =>
      if piece.isEmpty || piece = [0x2E] then place
      else if piece = [0x2E, 0x2E] then place.dropLast
      else place ++ [piece])
    (if path.isAbsolute then [] else here)

inductive Network
  | unreachable
  /-- Answers by URL; a URL that is not listed is not found. -/
  | serving (pages : List (String × Response))

structure World where
  /-- The working directory. -/
  here : Place
  entries : List (Place × Entry)
  network : Network

/-! ## Reading files -/

/-- Why a file cannot be read. -/
inductive IoError
  | notFound
  | isDirectory
  | notDirectory
  | nameTooLong
  | notUtf8
  | nulInPath
  | notLocal (url : String)
  | inMemory
  deriving DecidableEq, Repr

def IoError.message : IoError → String
  | notFound => "No such file or directory (os error 2)"
  | isDirectory => "Is a directory (os error 21)"
  | notDirectory => "Not a directory (os error 20)"
  | nameTooLong => "File name too long (os error 36)"
  | notUtf8 => "stream did not contain valid UTF-8"
  | nulInPath => "file name contained an unexpected NUL byte"
  | notLocal url => "not a local file URL: " ++ url
  | inMemory => "in-memory documents have no location to load from"

namespace World

/-- What stands at a place; places above others are directories. -/
def at? (w : World) (place : Place) : Option Entry :=
  match w.entries.find? (·.1 == place) with
  | some (_, e) => some e
  | none =>
    if place.isPrefixOf w.here || w.entries.any (fun e => place.isPrefixOf e.1) then
      some .directory
    else none

/-- Follows the pieces of a path from a place. -/
def walk (w : World) : Place → List (List UInt8) → Except IoError Entry
  | place, [] =>
    match w.at? place with
    | some e => .ok e
    | none => .error .notFound
  | place, piece :: rest =>
    match w.at? place with
    | none => .error .notFound
    | some (.file _) => .error .notDirectory
    | some .directory =>
      if piece.isEmpty || piece = [0x2E] then walk w place rest
      else if piece = [0x2E, 0x2E] then walk w place.dropLast rest
      else if 255 < piece.length then .error .nameTooLong
      else walk w (place ++ [piece]) rest

/-- The bytes of a file. -/
def readBytes (w : World) (path : FilePath) : Except IoError (List UInt8) :=
  if path.bytes.contains 0 then .error .nulInPath
  else if path.bytes.isEmpty then .error .notFound
  else if 4095 < path.bytes.length then .error .nameTooLong
  else
    match w.walk (if path.isAbsolute then [] else w.here) (FilePath.pieces path.bytes) with
    | .ok (.file bytes) => .ok bytes
    | .ok .directory => .error .isDirectory
    | .error e => .error e

/-- The text of a file. -/
def readText (w : World) (path : FilePath) : Except IoError String :=
  match w.readBytes path with
  | .ok bytes =>
    match Utf8.decode? bytes with
    | some s => .ok s
    | none => .error .notUtf8
  | .error e => .error e

/-- The world with a file written. -/
def write (w : World) (place : Place) (entry : Entry) : World :=
  { w with entries := (place, entry) :: w.entries.filter (·.1 != place) }

/-- The world with an answer set. -/
def serve (w : World) (url : String) (response : Response) : World :=
  match w.network with
  | .unreachable => w
  | .serving pages => { w with network := .serving ((url, response) :: pages.filter (·.1 != url)) }

end World
end MessageContract
