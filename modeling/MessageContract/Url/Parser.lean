import MessageContract.Url.Basic

/-!
# Reading URLs

A text is read as an absolute URL, or as a reference against a base URL.
-/

namespace MessageContract.Url

/-- The text that counts: no blanks or controls at the ends, no tabs or line breaks anywhere. -/
def clean (s : String) : List Char :=
  let edge (c : Char) : Bool := c.toNat ≤ 32
  let trimmed := ((s.toList.dropWhile edge).reverse.dropWhile edge).reverse
  trimmed.filter fun c => !(c == '\t' || c == '\n' || c == '\r')

/-- The scheme and what follows its colon. -/
def splitScheme? (cs : List Char) : Option (String × List Char) :=
  let (name, rest) := cs.span fun c => c.isAlphanum || c == '+' || c == '-' || c == '.'
  match name, rest with
  | first :: _, ':' :: rest =>
    if first.isAlpha then some (String.ofList (name.map Char.toLower), rest) else none
  | _, _ => none

def isSlash (kind : Kind) (c : Char) : Bool := c == '/' || (kind != .plain && c == '\\')

private def isAnySlash (c : Char) : Bool := c == '/' || c == '\\'

private def endsAuthority (kind : Kind) (c : Char) : Bool := isSlash kind c || c == '?' || c == '#'

/-! ## Paths -/

private def isDoubleDot (seg : List Char) : Bool :=
  ["..", "%2e%2e", "%2e.", ".%2e"].contains (String.ofList (seg.map Char.toLower))

private def isSingleDot (seg : List Char) : Bool :=
  [".", "%2e"].contains (String.ofList (seg.map Char.toLower))

def isDriveLetter (seg : List Char) : Bool :=
  match seg with
  | [a, b] => a.isAlpha && (b == ':' || b == '|')
  | _ => false

def isColonDrive (seg : List Char) : Bool := isDriveLetter seg && seg.getLast? == some ':'

/-- The segments that remain when `..` follows them: a drive letter is never left. -/
def stepUp (segs : List (List Char)) : List (List Char) :=
  if segs.getLast?.any isDriveLetter then segs else segs.dropLast

/-- The segments against which a relative path is read; the drive letter of a file stays. -/
def directory (kind : Kind) (segs : List (List Char)) : List (List Char) :=
  if kind = .file && segs.getLast?.any isColonDrive then segs else segs.dropLast

/-- Appends segments to a path, where `.` and `..` take effect. A drive letter in front of the path
of a file is written with a colon. -/
def appendSegments (kind : Kind) : List (List Char) → List (List Char) → List (List Char)
  | path, [] => path
  | path, seg :: rest =>
    let last := rest.isEmpty
    let path :=
      if isDoubleDot seg then
        let path := stepUp path
        if last then path ++ [[]] else path
      else if isSingleDot seg then (if last then path ++ [[]] else path)
      else if kind = .file && path.isEmpty && isDriveLetter seg then
        path ++ [[seg.headD 'c', ':']]
      else path ++ [encode inPath seg]
    appendSegments kind path rest

private def splitSegments (kind : Kind) (cs : List Char) : List (List Char) :=
  Text.splitAt '/' (if kind = .plain then cs else cs.map fun c => if c == '\\' then '/' else c)

/-- The written path of segments; a file path begins with one slash only. -/
def writeSegments (kind : Kind) (segs : List (List Char)) : String :=
  let segs := if kind = .file then
      let trimmed := segs.dropWhile List.isEmpty
      if trimmed.isEmpty then [[]] else trimmed
    else segs
  String.ofList (segs.flatMap ('/' :: ·))

/-- The segments of a written path. -/
def segmentsOf (path : String) : List (List Char) :=
  match path.toList with
  | '/' :: rest => Text.splitAt '/' rest
  | [] => []
  | cs => Text.splitAt '/' cs

/-! ## Query and fragment -/

/-- Splits off query and fragment. -/
def splitTail (cs : List Char) : List Char × Option (List Char) × Option (List Char) :=
  let (front, fragment) := cs.span (· != '#')
  let (path, query) := front.span (· != '?')
  (path, if query.isEmpty then none else some (query.drop 1),
    if fragment.isEmpty then none else some (fragment.drop 1))

/-- Sets query and fragment from unwritten text. -/
def withTail (u : Url) (query fragment : Option (List Char)) : Url :=
  let inSet := if kindOf u.scheme = .plain then inQuery else inSpecialQuery
  { u with
    query := query.map fun q => String.ofList (encode inSet q)
    fragment := fragment.map fun f => String.ofList (encode inFragment f) }

/-! ## Authority -/

private def readPort (scheme : String) (cs : List Char) : Except UrlError (Option Nat) :=
  if cs.isEmpty then .ok none
  else if !cs.all Char.isDigit then .error .invalidPort
  else
    match natural? 10 cs with
    | some n =>
      if 65535 < n then .error .invalidPort
      else .ok (if defaultPort? scheme = some n then none else some n)
    | none => .error .invalidPort

/-- Splits host and port at the first colon outside brackets. -/
private def splitPort : Bool → List Char → List Char × Option (List Char)
  | _, [] => ([], none)
  | inside, c :: rest =>
    if c == ':' && !inside then ([], some rest)
    else
      let (host, port) := splitPort (c == '[' || (c != ']' && inside)) rest
      (c :: host, port)

/-- Splits at the last `@`. -/
private def splitUserInfo (cs : List Char) : Option (List Char) × List Char :=
  let (back, front) := cs.reverse.span (· != '@')
  if front.isEmpty then (none, cs) else (some (front.drop 1).reverse, back.reverse)

def writeUserInfo (cs : List Char) : String :=
  let (user, password) := cs.span (· != ':')
  let user := String.ofList (encode inUserInfo user)
  let password := String.ofList (encode inUserInfo (password.drop 1))
  if user.isEmpty && password.isEmpty then ""
  else user ++ (if password.isEmpty then "" else ":" ++ password) ++ "@"

/-- Reads what follows `//`. -/
def readAuthority (scheme : String) (cs : List Char) : Except UrlError Url := do
  let kind := kindOf scheme
  let (authority, rest) := cs.span fun c => !endsAuthority kind c
  let (info, hostPort) := splitUserInfo authority
  let userInfo := (info.map writeUserInfo).getD ""
  let (hostText, port) := splitPort false hostPort
  let bareMark := info == some [] && hostPort.isEmpty && !rest.isEmpty
  if hostText.isEmpty && (kind = .special || port.isSome || bareMark) then .error .emptyHost
  else
    let written ← if kind = .special then writeHost hostText
      else if hostText.isEmpty then pure "" else writePlainHost hostText
    let port ← match port with
      | some p => readPort scheme p
      | none => pure none
    if written.isEmpty && !userInfo.isEmpty then .error .emptyHost
    else
      let (pathText, query, fragment) := splitTail rest
      let path :=
        match pathText with
        | [] => if kind = .plain then "" else "/"
        | _ :: tail => writeSegments kind (appendSegments kind [] (splitSegments kind tail))
      .ok (withTail ⟨scheme, userInfo, some written, port, path, false, none, none⟩ query fragment)

/-! ## Files -/

/-- A file URL without a host, of the segments `start` and those of a text. -/
def fileUrl (start : List (List Char)) (cs : List Char) : Url :=
  let (pathText, query, fragment) := splitTail cs
  let path := writeSegments .file (appendSegments .file start (splitSegments .file pathText))
  withTail ⟨"file", "", none, none, path, false, none, none⟩ query fragment

/-- A file URL whose path begins behind the host: a drive letter there takes the place of the
host. -/
def hostedFileUrl (host : String) (cs : List Char) : Url :=
  let (pathText, query, fragment) := splitTail cs
  let text := match pathText with
    | [] => []
    | _ :: rest => rest
  let segs := appendSegments .file [] (splitSegments .file text)
  let host := if segs.head?.any isDriveLetter then none else some host
  withTail ⟨"file", "", host, none, writeSegments .file segs, false, none, none⟩ query fragment

/-- Whether a text opens with a drive letter that is a whole segment. -/
private def opensWithDrive (cs : List Char) : Bool :=
  isDriveLetter (cs.takeWhile fun c => !endsAuthority .file c)

/-- Resolves what follows a single slash, or no slash, against a file URL. -/
def readBesideFile (base : Url) (cs : List Char) : Url :=
  match cs with
  | [] => base.withoutFragment
  | '?' :: _ =>
    let (_, query, fragment) := splitTail cs
    withTail base query fragment
  | '#' :: rest => { base with fragment := some (String.ofList (encode inFragment rest)) }
  | c :: rest =>
    let segs := segmentsOf base.path
    if isSlash .file c then
      if opensWithDrive rest then fileUrl [] rest
      else
        let drive := (segs.take 1).filter isColonDrive
        let host := if drive.isEmpty then base.host else none
        { fileUrl drive rest with host := host }
    else if opensWithDrive cs then fileUrl [] cs
    else { fileUrl (directory .file segs) cs with host := base.host }

/-- Reads what follows `file:`, where `base` is a file URL. -/
def readFile (base : Option Url) (cs : List Char) : Except UrlError Url := do
  let beside : Url :=
    match base, cs with
    | some b, _ => readBesideFile b cs
    | none, c :: rest => fileUrl [] (if isSlash .file c then rest else cs)
    | none, [] => fileUrl [] []
  match cs with
  | a :: b :: rest =>
    if isSlash .file a && isSlash .file b then
      let (hostText, tail) := rest.span fun c => !endsAuthority .file c
      if isDriveLetter hostText then return fileUrl [] rest
      if hostText.isEmpty then return fileUrl [] tail
      let host ← writeHost hostText
      if host == "localhost" then return fileUrl [] tail
      return hostedFileUrl host tail
    else return beside
  | _ => return beside

/-! ## References -/

/-- Resolves a reference without a scheme against a URL with a rooted path that is no file. -/
def readRelative (base : Url) (cs : List Char) : Except UrlError Url := do
  let kind := kindOf base.scheme
  match cs with
  | [] => .ok base.withoutFragment
  | '?' :: _ =>
    let (_, query, fragment) := splitTail cs
    .ok (withTail base query fragment)
  | '#' :: rest => .ok { base with fragment := some (String.ofList (encode inFragment rest)) }
  | c :: rest =>
    if isAnySlash c then
      match rest with
      | d :: tail =>
        if isAnySlash d then
          let tail := if c == '/' && d == '/' then tail else tail.dropWhile isAnySlash
          readAuthority base.scheme tail
        else rooted kind [] rest
      | [] => rooted kind [] rest
    else
      rooted kind (directory kind (segmentsOf base.path)) cs
where
  rooted (kind : Kind) (start : List (List Char)) (cs : List Char) : Except UrlError Url :=
    let (pathText, query, fragment) := splitTail cs
    let path := writeSegments kind (appendSegments kind start (splitSegments kind pathText))
    .ok (withTail { base with path := path } query fragment)

/-- Reads what follows the colon of a scheme. -/
def readWithScheme (base : Option Url) (scheme : String) (cs : List Char) :
    Except UrlError Url := do
  match kindOf scheme with
  | .file => readFile (base.filter (·.scheme == "file")) cs
  | .special =>
    let slashes := (cs.takeWhile (isSlash .special)).length
    match base.filter fun b => b.scheme == scheme && slashes < 2 with
    | some b => readRelative b cs
    | none => readAuthority scheme (cs.drop slashes)
  | .plain =>
    match cs with
    | '/' :: '/' :: rest => readAuthority scheme rest
    | _ =>
      let (pathText, query, fragment) := splitTail cs
      match pathText with
      | '/' :: rest =>
        let path := writeSegments .plain (appendSegments .plain [] (splitSegments .plain rest))
        .ok (withTail ⟨scheme, "", none, none, path, false, none, none⟩ query fragment)
      | _ =>
        let path := String.ofList (encode inControls pathText)
        .ok (withTail ⟨scheme, "", none, none, path, true, none, none⟩ query fragment)

/-- Reads an absolute URL. -/
def parse (s : String) : Except UrlError Url :=
  match splitScheme? (clean s) with
  | some (scheme, rest) => readWithScheme none scheme rest
  | none => .error .noBase

/-- Resolves a reference against a URL. -/
def join (base : Url) (reference : String) : Except UrlError Url :=
  let cs := clean reference
  match splitScheme? cs with
  | some (scheme, rest) => readWithScheme (some base) scheme rest
  | none =>
    match cs with
    | '#' :: rest => .ok { base with fragment := some (String.ofList (encode inFragment rest)) }
    | _ =>
      if base.rootless then .error .rootlessBase
      else if base.scheme == "file" then readFile (some base) cs
      else readRelative base cs

/-- The bytes of the path of a file on this machine, if the URL names one. -/
def filePath? (u : Url) : Option (List UInt8) :=
  if u.rootless || !(u.host.isNone || u.host == some "localhost") then none
  else
    let bytes := (segmentsOf u.path).flatMap fun seg => 0x2F :: decodeBytes seg
    match bytes.reverse with
    | b :: a :: _ :: _ =>
      if (Char.ofNat a.toNat).isAlpha && (b == 0x3A || b == 0x7C) then some (bytes ++ [0x2F])
      else some bytes
    | _ => some bytes

end MessageContract.Url
