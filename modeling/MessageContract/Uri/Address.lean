import MessageContract.Url.Host
import MessageContract.Url.Percent

/-!
# Addresses in identifiers

The addresses that may stand in brackets: IPv6 addresses, and addresses of versions to come. Reading
goes as far as it can, and what is left tells where it stopped.
-/

namespace MessageContract.Uri

/-! ## Characters -/

def isLetter (c : Char) : Bool := ('a' ≤ c && c ≤ 'z') || ('A' ≤ c && c ≤ 'Z')
def isDigit (c : Char) : Bool := '0' ≤ c && c ≤ '9'
def isHex (c : Char) : Bool := (Url.hexDigit? c).isSome
def isUnreserved (c : Char) : Bool := isLetter c || isDigit c || "-._~".toList.contains c
def isDelimiter (c : Char) : Bool := "!$&'()*+,;=".toList.contains c
def inScheme (c : Char) : Bool := isLetter c || isDigit c || "+-.".toList.contains c

namespace Address

/-! ## Version six -/

/-- What stands between colons, and whether a colon is before it. -/
inductive Segment
  | piece (value : Nat) (colon : Bool)
  | gap
  /-- The start of four decimal numbers. -/
  | dotted (colon : Bool)
  | loneColon

/-- Reads up to four digits of base sixteen. -/
private def readPiece (colon : Bool) (cs : List Char) : Segment × List Char :=
  let digits := (cs.take 4).takeWhile isHex
  let rest := cs.drop digits.length
  if digits.length < 4 && rest.head? == some '.' then (.dotted colon, cs)
  else (.piece (digits.foldl (fun n c => n * 16 + (Url.hexDigit? c).getD 0) 0) colon, rest)

/-- Reads a segment, if one follows. -/
def readSegment? (cs : List Char) : Option (Segment × List Char) :=
  match cs with
  | ':' :: c :: rest =>
    if isHex c then some (readPiece true (c :: rest))
    else if c == ':' then some (.gap, rest)
    else some (.loneColon, c :: rest)
  | [':'] => some (.loneColon, [])
  | c :: rest => if isHex c then some (readPiece false (c :: rest)) else none
  | [] => none

/-- A decimal number below 256; only zero starts with one. -/
private def readByte : List Char → Option Nat × List Char
  | '0' :: rest => (some 0, rest)
  | cs =>
    let digits := (cs.take 3).takeWhile isDigit
    let n := digits.foldl (fun n c => n * 10 + (c.toNat - 48)) 0
    (if digits.isEmpty || 255 < n then none else some n, cs.drop digits.length)

/-- Numbers with points between them, so many more behind the first. -/
private def readBytes : Nat → List Char → Option (List Nat) × List Char
  | more, cs =>
    match readByte cs, more with
    | (none, rest), _ => (none, rest)
    | (some n, rest), 0 => (some [n], rest)
    | (some n, '.' :: rest), more + 1 =>
      let (ns, rest) := readBytes more rest
      (ns.map (n :: ·), rest)
    | (some _, rest), _ + 1 => (none, rest)

/-- The eight pieces that pieces around a gap stand for. -/
private def fill (pieces : List Nat) (gap : Option Nat) : Option (List Nat) :=
  match gap with
  | none => if pieces.length == 8 then some pieces else none
  | some i =>
    if 8 ≤ pieces.length then none
    else some (pieces.take i ++ List.replicate (8 - pieces.length) 0 ++ pieces.drop i)

/-- Reads segments; `pieces` are those before, and `gap` says where zeros are left out. -/
private def readFrom : Nat → List Nat → Option Nat → List Char → Option (List Nat) × List Char
  | 0, pieces, gap, cs => (fill pieces gap, cs)
  | fuel + 1, pieces, gap, cs =>
    let i := pieces.length
    if 8 ≤ i then (fill pieces gap, cs)
    else
      match readSegment? cs with
      | none => (fill pieces gap, cs)
      | some (.piece n colon, rest) =>
        if colon == (i == 0 || gap == some i) then (none, rest)
        else readFrom fuel (pieces ++ [n]) gap rest
      | some (.gap, rest) => if gap.isSome then (none, rest) else readFrom fuel pieces (some i) rest
      | some (.dotted colon, rest) =>
        if 6 < i || colon == (gap == some i) then (none, rest)
        else
          match readBytes 3 rest with
          | (some [a, b, c, d], rest) => (fill (pieces ++ [a * 256 + b, c * 256 + d]) gap, rest)
          | (_, rest) => (none, rest)
      | some (.loneColon, rest) => (none, rest)

/-- Reads an address of version six; one gap and eight pieces are the most it has. -/
def read (cs : List Char) : Option (List Nat) × List Char := readFrom 10 [] none cs

/-- An address that stands for one of version four is written with its four numbers. -/
def write (pieces : List Nat) : String :=
  match pieces with
  | [0, 0, 0, 0, 0, 0xFFFF, a, b] => "[::ffff:" ++ Url.writeIpv4 (a * 65536 + b) ++ "]"
  | _ => Url.writeIpv6 pieces

/-! ## Versions to come -/

/-- Reads the version and the address behind it. -/
def readFuture (cs : List Char) : Bool × List Char :=
  match cs with
  | c :: rest =>
    if c != 'v' && c != 'V' then (false, cs)
    else
      let version := rest.takeWhile isHex
      match version, rest.drop version.length with
      | _ :: _, '.' :: behind =>
        let address := behind.takeWhile fun c => isUnreserved c || isDelimiter c || c == ':'
        (!address.isEmpty, behind.drop address.length)
      | _, behind => (false, behind)
  | [] => (false, [])

end Address
end MessageContract.Uri
