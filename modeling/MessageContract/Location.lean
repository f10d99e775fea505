import MessageContract.FilePath
import MessageContract.Url.Parser

/-!
# Where documents live

A document is a file, stands behind a URL, or was given in memory. References are resolved against
the location of the document that holds them.
-/

namespace MessageContract

inductive Location
  | file (path : FilePath)
  | url (url : Url)
  /-- Given in memory; only absolute references lead away from here. -/
  | inline

namespace Location

/-- Files are one if their components are, URLs if their texts are. -/
instance : BEq Location where
  beq
    | .file p, .file q => p == q
    | .url u, .url v => u.write == v.write
    | .inline, .inline => true
    | _, _ => false

def write : Location → String
  | .file p => p.write
  | .url u => u.write
  | .inline => "<inline>"

/-- The location of a file. -/
def ofPath (path : FilePath) : Location := .file path.normalize

/-- Why a reference leads nowhere. -/
inductive JoinError
  | unresolvable (reference : String) (base : Url) (cause : UrlError)
  | relativeInMemory (reference : String)
  deriving DecidableEq, Repr

def JoinError.message : JoinError → String
  | unresolvable reference base cause =>
    "cannot resolve '" ++ reference ++ "' against " ++ base.write ++ ": " ++ cause.message
  | relativeInMemory reference =>
    "relative reference '" ++ reference ++ "' cannot be resolved from an in-memory document"

/-- The location named by an absolute reference: an `http`, `https` or `file` URL, or an absolute
path. -/
def absolute? (reference : String) : Option Location :=
  let path := FilePath.ofString reference
  let byPath := if path.isAbsolute then some (Location.file path.normalize) else none
  match Url.parse reference with
  | .ok u =>
    if u.scheme == "http" || u.scheme == "https" then some (.url u)
    else if u.scheme == "file" then u.filePath?.map fun bytes => .file ⟨bytes⟩
    else byPath
  | .error _ => byPath

/-- Resolves a reference without fragment against a location. -/
def join (base : Location) (reference : String) : Except JoinError Location :=
  match absolute? reference with
  | some l => .ok l
  | none =>
    match base with
    | .file path => .ok (.file (path.joinTo (.ofString reference)))
    | .url u =>
      match u.join reference with
      | .ok v => .ok (.url v)
      | .error e => .error (.unresolvable reference u e)
    | .inline => .error (.relativeInMemory reference)

end Location
end MessageContract
