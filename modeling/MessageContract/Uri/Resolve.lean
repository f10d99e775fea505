import MessageContract.Uri.Basic

/-!
# Resolving references

A reference seen from a base, and the normal form in which two texts of one resource agree: scheme
and host in lower case, escapes in upper case and only where they are needed, no dot segments.
-/

namespace MessageContract.Uri

/-! ## Dot segments -/

private def dropSegment (out : List Char) : List Char :=
  ((out.reverse.dropWhile (· != '/')).drop 1).reverse

/-- Takes `.` and `..` segments back; `out` is what was kept so far. -/
def removeDots : Nat → List Char → List Char → List Char
  | 0, out, _ => out
  | fuel + 1, out, cs =>
    match cs with
    | [] => out
    | ['/', '.'] => out ++ ['/']
    | ['/', '.', '.'] => dropSegment out ++ ['/']
    | '/' :: '.' :: '/' :: rest => removeDots fuel out ('/' :: rest)
    | '/' :: '.' :: '.' :: '/' :: rest => removeDots fuel (dropSegment out) ('/' :: rest)
    | '.' :: '/' :: rest => removeDots fuel out rest
    | '.' :: '.' :: '/' :: rest => removeDots fuel out rest
    | ['.'] => out
    | ['.', '.'] => out
    | c :: rest =>
      let segment := rest.takeWhile (· != '/')
      removeDots fuel (out ++ c :: segment) (rest.drop segment.length)

/-- A path without dot segments. -/
def plainPath (path : String) : String :=
  String.ofList (removeDots (path.length + 1) [] path.toList)

/-! ## Resolution -/

/-- A relative path seen from the path of a base. -/
def mergePath (base : Uri) (path : String) : String :=
  if base.authority.isSome && base.path.isEmpty then "/" ++ path
  else
    String.ofList (base.path.toList.reverse.dropWhile (· != '/')).reverse ++ path

/-- A reference seen from a base. -/
def resolve (base r : Uri) : Uri :=
  if r.scheme.isSome then { r with path := plainPath r.path }
  else if r.authority.isSome then { r with scheme := base.scheme, path := plainPath r.path }
  else if r.path.isEmpty then
    { r with scheme := base.scheme, authority := base.authority, path := base.path,
             query := r.query.or base.query }
  else
    let path := if r.path.startsWith "/" then r.path else mergePath base r.path
    { r with scheme := base.scheme, authority := base.authority, path := plainPath path }

/-! ## Normal form -/

/-- Escapes in upper case, and undone where the character needs none. -/
def plainEscapes : List Char → List Char
  | '%' :: a :: b :: rest =>
    let n := (Url.hexDigit? a).getD 0 * 16 + (Url.hexDigit? b).getD 0
    if n < 128 && isUnreserved (Char.ofNat n) then Char.ofNat n :: plainEscapes rest
    else '%' :: a.toUpper :: b.toUpper :: plainEscapes rest
  | c :: rest => c :: plainEscapes rest
  | [] => []

private def plain (s : String) : String := String.ofList (plainEscapes s.toList)

/-- A name in lower case, its escapes apart. -/
private def lowerName : List Char → List Char
  | '%' :: a :: b :: rest => '%' :: a :: b :: lowerName rest
  | c :: rest => c.toLower :: lowerName rest
  | [] => []

/-- A host in its one form. -/
def plainHost (cs : List Char) : List Char :=
  match cs with
  | '[' :: inside =>
    match Address.read inside with
    | (some pieces, _) => (Address.write pieces).toList
    | (none, _) => cs.map Char.toLower
  | _ => lowerName (plainEscapes cs)

/-- An authority with its host in its one form, and without a colon that no port follows. -/
def plainAuthority (s : String) : String :=
  let cs := s.toList
  let user := if cs.contains '@' then cs.takeWhile (· != '@') ++ ['@'] else []
  let behind := cs.drop user.length
  let port := (behind.reverse.takeWhile isDigit).reverse
  let named := behind.take (behind.length - port.length)
  let (host, port) :=
    if named.getLast? == some ':' then
      (named.dropLast, if port.isEmpty then [] else ':' :: port)
    else (behind, [])
  String.ofList (plainEscapes user ++ plainHost host ++ port)

def normalize (u : Uri) : Uri :=
  { scheme := u.scheme.map String.toLower, authority := u.authority.map plainAuthority,
    path := if u.scheme.isSome && u.path.startsWith "/" then plainPath (plain u.path)
      else plain u.path,
    query := u.query.map plain, fragment := u.fragment.map plain }

/-! ## References -/

/-- Why a text names nothing, seen from a base. -/
inductive Unresolved
  /-- The text is no reference. -/
  | unreadable (text : String) (error : ParseError)
  /-- The base has a fragment. -/
  | fragment (text base : String)
  /-- The base has no authority and no path from a root, so that nothing can be relative to it. -/
  | rootless (text base : String)
  deriving DecidableEq, Repr

def Unresolved.message : Unresolved → String
  | unreadable text error => "Invalid URI reference '" ++ text ++ "': " ++ error.message text
  | fragment text base =>
    "Failed to resolve '" ++ text ++ "' against '" ++ base ++ "': base URI/IRI with fragment"
  | rootless text base =>
    "Failed to resolve '" ++ text ++ "' against '" ++ base ++ "': relative reference must be " ++
      "empty or start with '#' when resolved against authority-less base URI/IRI with rootless path"

/-- Whether nothing but a fragment can be relative to a base. -/
def isRootless (u : Uri) : Bool := u.authority.isNone && !u.path.startsWith "/"

/-- What a text names, seen from a base. A fragment that the base ends in names the base. -/
def join (base : Uri) (text : String) : Except Unresolved Uri :=
  if text.startsWith "#" && base.write.endsWith text then .ok base
  else
    match reference text with
    | .error e => .error (.unreadable text e)
    | .ok r =>
      if base.fragment.isSome then .error (.fragment text base.write)
      else if base.isRootless && r.scheme.isNone && !text.isEmpty && !text.startsWith "#" then
        .error (.rootless text base.write)
      else .ok (resolve base r).normalize

end MessageContract.Uri
