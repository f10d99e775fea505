import MessageContract.Uri.Address

/-!
# URI references

The generic form of identifiers that schemas refer to each other with: scheme, authority, path,
query and fragment, each with its own characters. Reading is strict, and a fault names the place.
An international reference may hold characters beyond ASCII.
-/

namespace MessageContract

/-- A reference taken apart. -/
structure Uri where
  scheme : Option String
  authority : Option String
  path : String
  query : Option String
  fragment : Option String
  deriving DecidableEq, Repr

namespace Uri

private def part (sign : String) (p : Option String) : String := (p.map (sign ++ ·)).getD ""

/-- The text of a reference. -/
def write (u : Uri) : String :=
  (u.scheme.map (· ++ ":")).getD "" ++ part "//" u.authority ++ u.path ++ part "?" u.query ++
    part "#" u.fragment

/-- A reference without its fragment. -/
def withoutFragment (u : Uri) : Uri := { u with fragment := none }

/-! ## Characters -/

private def within (ranges : List (Nat × Nat)) (c : Char) : Bool :=
  ranges.any fun (lo, hi) => lo ≤ c.toNat && c.toNat ≤ hi

/-- Characters beyond ASCII in an international reference. -/
def isInternational (c : Char) : Bool :=
  within [(0xA0, 0xD7FF), (0xF900, 0xFDCF), (0xFDF0, 0xFFEF)] c ||
    (0x10000 ≤ c.toNat && c.toNat < 0xF0000 && c.toNat % 0x10000 < 0xFFFE &&
      !within [(0xE0000, 0xE0FFF)] c)

def isPrivate (c : Char) : Bool :=
  within [(0xE000, 0xF8FF)] c || (0xF0000 ≤ c.toNat && c.toNat % 0x10000 < 0xFFFE)

/-- Which characters beyond ASCII are taken. -/
structure Charset where
  international : Bool

namespace Charset

def letter (s : Charset) (c : Char) : Bool :=
  isUnreserved c || (s.international && isInternational c)
def host (s : Charset) (c : Char) : Bool := s.letter c || isDelimiter c
def userInfo (s : Charset) (c : Char) : Bool := s.host c || c == ':'
def path (s : Charset) (c : Char) : Bool := s.userInfo c || c == '@' || c == '/'
def fragment (s : Charset) (c : Char) : Bool := s.path c || c == '?'
def query (s : Charset) (c : Char) : Bool := s.fragment c || (s.international && isPrivate c)

end Charset

/-! ## Reading -/

inductive Fault
  /-- A percent sign without two hexadecimal digits. -/
  | escape
  | character
  | ipv6
  deriving DecidableEq, Repr

/-- A fault, and how much of the text is left at it. -/
structure ParseError where
  fault : Fault
  left : Nat
  deriving DecidableEq, Repr

/-- What is said of a fault in a text. -/
def ParseError.message (e : ParseError) (text : String) : String :=
  (match e.fault with
    | .escape => "invalid percent-encoded octet"
    | .character => "unexpected character"
    | .ipv6 => "invalid IPv6 address") ++
    " at index " ++ toString ((text.toList.drop (text.length - e.left)).foldl
      (fun n c => n - c.utf8Size) text.utf8ByteSize)

def stop (fault : Fault) (cs : List Char) : Except ParseError α :=
  .error ⟨fault, cs.length⟩

/-- Takes characters of a class and percent escapes. -/
def take (ok : Char → Bool) : List Char → Except ParseError (List Char × List Char)
  | '%' :: a :: b :: rest =>
    if isHex a && isHex b then (take ok rest).map fun (t, r) => ('%' :: a :: b :: t, r)
    else stop .escape ('%' :: a :: b :: rest)
  | '%' :: rest => stop .escape ('%' :: rest)
  | c :: rest =>
    if ok c then (take ok rest).map fun (t, r) => (c :: t, r) else .ok ([], c :: rest)
  | [] => .ok ([], [])

/-- Refuses what is left over. -/
def finish (u : Uri) : List Char → Except ParseError Uri
  | [] => .ok u
  | rest => stop .character rest

/-- Reads path, query and fragment; behind an authority the path is empty or starts with a slash. -/
def readPath (s : Charset) (u : Uri) (cs : List Char) : Except ParseError Uri := do
  let (path, rest) ← take s.path cs
  if u.authority.isSome && path.head?.any (· != '/') then stop .character cs
  else
    let u := { u with path := String.ofList path }
    let (u, rest) ← match rest with
      | '?' :: rest => (take s.query rest).map fun (t, r) =>
          ({ u with query := some (String.ofList t) }, r)
      | rest => .ok (u, rest)
    match rest with
    | '#' :: rest =>
      let (t, rest) ← take s.fragment rest
      finish { u with fragment := some (String.ofList t) } rest
    | rest => finish u rest

/-- Reads an address in brackets, behind the opening one. -/
private def readLiteral (cs : List Char) : Except ParseError (List Char × List Char) := do
  let rest ← match Address.read cs with
    | (some _, rest) => .ok rest
    | (none, rest) =>
      if rest.length < cs.length then stop .ipv6 cs
      else
        match Address.readFuture cs with
        | (true, rest) => .ok rest
        | (false, rest) => stop .character rest
  match rest with
  | ']' :: rest => .ok ('[' :: cs.take (cs.length - rest.length), rest)
  | rest => stop .character rest

/-- Reads a port, if one follows. -/
private def takePort (cs : List Char) : List Char × List Char :=
  match cs with
  | ':' :: rest =>
    let digits := rest.takeWhile isDigit
    (':' :: digits, rest.drop digits.length)
  | cs => ([], cs)

/-- Reads what follows `//`. -/
def readAuthority (s : Charset) (u : Uri) (cs : List Char) : Except ParseError Uri := do
  let (taken, rest) ← take s.userInfo cs
  let withAuthority (cs : List Char) : Uri := { u with authority := some (String.ofList cs) }
  match taken, rest with
  | taken, '@' :: rest =>
    let (host, rest) ← match rest with
      | '[' :: rest => readLiteral rest
      | rest => take s.host rest
    let (port, rest) := takePort rest
    readPath s (withAuthority (taken ++ '@' :: host ++ port)) rest
  | [], '[' :: rest =>
    let (host, rest) ← readLiteral rest
    let (port, rest) := takePort rest
    readPath s (withAuthority (host ++ port)) rest
  | taken, rest =>
    let behind := (taken.dropWhile (· != ':')).drop 1
    if behind.contains ':' then
      stop .character (':' :: (behind.reverse.takeWhile (· != ':')) ++ rest)
    else
      match behind.dropWhile isDigit with
      | [] => readPath s (withAuthority taken) rest
      | bad => stop .character (bad ++ rest)

/-- Reads a text; `absolute` asks for a scheme. -/
def parse (s : Charset) (absolute : Bool) (text : String) : Except ParseError Uri :=
  let cs := text.toList
  let scheme := cs.takeWhile inScheme
  let none' : Uri := ⟨none, none, "", none, none⟩
  match cs.drop scheme.length with
  | ':' :: rest =>
    match scheme with
    | [] => stop .character cs
    | c :: _ =>
      if !isLetter c then stop .character cs
      else
        let u := { none' with scheme := some (String.ofList scheme) }
        match rest with
        | '/' :: '/' :: rest => readAuthority s u rest
        | rest => readPath s u rest
  | rest =>
    if absolute then stop .character rest
    else
      match cs with
      | '/' :: '/' :: rest => readAuthority s none' rest
      | cs => do
        let (_, after) ← take (fun c => s.path c && c != ':' && c != '/') cs
        match after with
        | ':' :: _ => stop .character after
        | _ => readPath s none' cs

/-- Reads a reference. -/
def reference (text : String) : Except ParseError Uri := parse ⟨false⟩ false text

end Uri
end MessageContract
