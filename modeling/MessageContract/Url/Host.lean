import MessageContract.Domain.Name
import MessageContract.Url.Percent

/-!
# Hosts of URLs

A host is a domain name, an IPv4 address or an IPv6 address in brackets. Domain names are written
in lower case, with labels beyond ASCII in Punycode.
-/

namespace MessageContract

/-- Why a text is no URL. -/
inductive UrlError
  | emptyHost
  | invalidDomain
  | invalidPort
  | invalidIpv4
  | invalidIpv6
  | invalidDomainCharacter
  | noBase
  | rootlessBase
  deriving DecidableEq, Repr

def UrlError.message : UrlError → String
  | emptyHost => "empty host"
  | invalidDomain => "invalid international domain name"
  | invalidPort => "invalid port number"
  | invalidIpv4 => "invalid IPv4 address"
  | invalidIpv6 => "invalid IPv6 address"
  | invalidDomainCharacter => "invalid domain character"
  | noBase => "relative URL without a base"
  | rootlessBase => "relative URL with a cannot-be-a-base base"

namespace Url

/-- A natural number in a base. -/
def natural? (base : Nat) (cs : List Char) : Option Nat :=
  (cs.mapM fun c => (hexDigit? c).filter (· < base)).map fun ds =>
    ds.foldl (fun n d => n * base + d) 0

/-! ## IPv4 -/

/-- A part of an IPv4 address, in base ten, eight after `0` and sixteen after `0x`. -/
def ipv4Part? (cs : List Char) : Option Nat :=
  match cs with
  | [] => none
  | '0' :: 'x' :: rest => natural? 16 rest
  | '0' :: 'X' :: rest => natural? 16 rest
  | '0' :: d :: rest => natural? 8 (d :: rest)
  | _ => natural? 10 cs

/-- The labels of a domain without an empty one at the end. -/
private def labels (domain : List Char) : List (List Char) :=
  let ls := Text.splitAt '.' domain
  match ls.getLast? with
  | some [] => if 1 < ls.length then ls.dropLast else ls
  | _ => ls

/-- Whether the last label makes a domain an IPv4 address. -/
def endsInNumber (domain : List Char) : Bool :=
  match (labels domain).getLast? with
  | none => false
  | some last =>
    if !last.isEmpty && last.all Char.isDigit then true else (ipv4Part? last).isSome

/-- The number of an IPv4 address; the last part fills the bytes that are left. -/
def ipv4? (domain : List Char) : Option Nat :=
  let parts := labels domain
  if 4 < parts.length then none
  else
    match parts.mapM ipv4Part? with
    | none => none
    | some ns =>
      let last := ns.getLast?.getD 0
      let front := ns.dropLast
      if front.any (255 < ·) || Nat.pow 256 (5 - ns.length) ≤ last then none
      else
        let base := (front.zipIdx).foldl (fun n (p, i) => n + p * Nat.pow 256 (3 - i)) 0
        some (base + last)

def writeIpv4 (n : Nat) : String :=
  let byte (i : Nat) : String := toString (n / Nat.pow 256 i % 256)
  byte 3 ++ "." ++ byte 2 ++ "." ++ byte 1 ++ "." ++ byte 0

/-! ## IPv6 -/

/-- The sixteen-bit pieces of a dotted address at the end of an IPv6 address. -/
private def dottedPieces? (cs : List Char) : Option (List Nat) :=
  let parts := Text.splitAt '.' cs
  if parts.length != 4 then none
  else
    let part (p : List Char) : Option Nat :=
      if p.isEmpty || 3 < p.length || (p.head? == some '0' && 1 < p.length) then none
      else (natural? 10 p).filter (· < 256)
    match parts.mapM part with
    | some [a, b, c, d] => some [a * 256 + b, c * 256 + d]
    | _ => none

/-- The pieces between colons; a dotted address may be the last one. -/
private def pieces? (cs : List Char) : Option (List Nat) :=
  if cs.isEmpty then some []
  else
    let parts := Text.splitAt ':' cs
    let piece (p : List Char) : Option (List Nat) :=
      if p.isEmpty || 4 < p.length then none else (natural? 16 p).map ([·])
    let front := parts.dropLast.mapM piece
    let last := (parts.getLast?).bind fun p =>
      if p.contains '.' then dottedPieces? p else piece p
    match front, last with
    | some f, some l => some (f.flatten ++ l)
    | _, _ => none

/-- Splits at the first `::`. -/
private def splitDouble : List Char → List Char → Option (List Char × List Char)
  | _, [] => none
  | acc, ':' :: ':' :: rest => some (acc.reverse, rest)
  | acc, c :: rest => splitDouble (c :: acc) rest

/-- The eight pieces of an IPv6 address; `::` stands for one or more zero pieces. -/
def ipv6? (cs : List Char) : Option (List Nat) :=
  match splitDouble [] cs with
  | none => (pieces? cs).filter (·.length == 8)
  | some (before, after) =>
    match pieces? before, pieces? after with
    | some a, some b =>
      if before.contains '.' || 7 < a.length + b.length then none
      else some (a ++ List.replicate (8 - a.length - b.length) 0 ++ b)
    | _, _ => none

/-- The start and length of the longest run of zero pieces, the first of several. -/
private def zeroRun (ps : List Nat) : Nat × Nat :=
  (List.range ps.length).foldl
    (fun best i =>
      let n := ((ps.drop i).takeWhile (· == 0)).length
      if best.2 < n then (i, n) else best)
    (0, 0)

def hexPiece (n : Nat) : String := String.ofList (Nat.toDigits 16 n)

def writeIpv6 (ps : List Nat) : String :=
  let (start, n) := zeroRun ps
  let write (qs : List Nat) : String := String.intercalate ":" (qs.map hexPiece)
  let inner :=
    if n < 2 then write ps else write (ps.take start) ++ "::" ++ write (ps.drop (start + n))
  "[" ++ inner ++ "]"

/-! ## Hosts -/

/-- An ASCII character that no domain name holds. -/
def isForbidden (c : Char) : Bool :=
  c.toNat ≤ 32 || c.toNat == 127 || "#/:<>?@[\\]^|%".toList.contains c

/-- The written form of the host of a special URL. -/
def writeHost (cs : List Char) : Except UrlError String :=
  match cs with
  | '[' :: rest =>
    if rest.getLast? != some ']' then .error .invalidIpv6
    else
      match ipv6? rest.dropLast with
      | some ps => .ok (writeIpv6 ps)
      | none => .error .invalidIpv6
  | _ =>
    let text := Utf8.decode? (decodeBytes cs)
    match text.bind fun t => Domain.labels? ⟨isForbidden, false⟩ t.toList with
    | none => .error .invalidDomain
    | some [[]] => .error .emptyHost
    | some labels =>
      let domain := Domain.write (labels.map Domain.asciiLabel)
      if endsInNumber domain then
        match ipv4? domain with
        | some n => .ok (writeIpv4 n)
        | none => .error .invalidIpv4
      else .ok (String.ofList domain)

/-- The written form of the host of any other URL. -/
def writePlainHost (cs : List Char) : Except UrlError String :=
  if cs.head? == some '[' then writeHost cs
  else if cs.any fun c => c.toNat == 0 || "\t\n\r #/:<>?@[\\]^|".toList.contains c then
    .error .invalidDomainCharacter
  else .ok (String.ofList (encode inControls cs))

end Url
end MessageContract
