import MessageContract.Json.Reader
import MessageContract.Schema.Violation
import MessageContract.Text.Utf8

/-!
# Encoded content

Texts that hold a document of another kind: in base64, as JSON, or as JSON in base64.
-/

namespace MessageContract.Content

/-- The six bits of a base64 character. -/
def sextet? (c : Char) : Option Nat :=
  if 'A' ≤ c ∧ c ≤ 'Z' then some (c.toNat - 65)
  else if 'a' ≤ c ∧ c ≤ 'z' then some (c.toNat - 71)
  else if '0' ≤ c ∧ c ≤ '9' then some (c.toNat + 4)
  else if c = '+' then some 62
  else if c = '/' then some 63
  else none

/-- The bytes of a text in base64 with padding; bits that are left over have to be zero. -/
def decode? : List Char → Option (List UInt8)
  | [] => some []
  | [a, b, '=', '='] => do
    let n := (← sextet? a) * 64 + (← sextet? b)
    if n % 16 == 0 then some [UInt8.ofNat (n / 16)] else none
  | [a, b, c, '='] => do
    let n := (← sextet? a) * 4096 + (← sextet? b) * 64 + (← sextet? c)
    if n % 4 == 0 then some [UInt8.ofNat (n / 1024), UInt8.ofNat (n / 4 % 256)] else none
  | a :: b :: c :: d :: rest => do
    let n := (← sextet? a) * 262144 + (← sextet? b) * 4096 + (← sextet? c) * 64 + (← sextet? d)
    let more ← decode? rest
    some (UInt8.ofNat (n / 65536) :: UInt8.ofNat (n / 256 % 256) :: UInt8.ofNat (n % 256) :: more)
  | _ => none

/-- Encodings that are checked. -/
def isEncoding (name : String) : Bool := name == "base64"

/-- Media types that are checked. -/
def isMediaType (name : String) : Bool := name == "application/json"

def isEncoded (s : String) : Bool := (decode? s.toList).isSome

def isJson (s : String) : Bool := (Json.read s).toOption.isSome

/-- The bytes of well-formed pieces. -/
private def size (ps : List Utf8.Piece) : Nat :=
  ps.foldl (fun n p => n + (p.map Char.utf8Size).getD 0) 0

/-- Where bytes stop being text: how many are well formed, and how many at that place are not, or
none if the bytes end there. -/
def faultOf (bytes : List UInt8) : Nat × Option Nat :=
  let whole := size ((Utf8.pieces bytes).takeWhile Option.isSome)
  let rest := bytes.drop whole
  let faulty := ((List.range 3).map (· + 1)).find? fun n =>
    (Utf8.pieces (rest.take n)).head? == some none &&
      1 < (Utf8.pieces (rest.take (n + 1))).length
  (whole, faulty)

/-- What is wrong with a text that should hold a document of a media type in base64. -/
def fault? (encoding mediaType s : String) : Option (String × Cause) :=
  match decode? s.toList with
  | none => some ("contentEncoding", .contentEncoding encoding)
  | some bytes =>
    match Utf8.decode? bytes with
    | none => let (valid, faulty) := faultOf bytes; some ("", .contentText valid faulty)
    | some t => if isJson t then none else some ("contentMediaType", .contentMediaType mediaType)

end MessageContract.Content
