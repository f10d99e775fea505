import MessageContract.Text.Utf8

/-!
# Percent encoding

Which characters of each part of a URL are written as percent escapes, and undoing the escapes.
Characters beyond ASCII are always escaped.
-/

namespace MessageContract.Url

def upperHex (n : Nat) : Char := if n < 10 then Char.ofNat (48 + n) else Char.ofNat (55 + n)

/-- A byte as `%XX`. -/
def escapeByte (b : UInt8) : List Char :=
  ['%', upperHex (b.toNat / 16), upperHex (b.toNat % 16)]

/-- Escapes the characters of a class, and all beyond ASCII. -/
def encode (special : Char → Bool) (cs : List Char) : List Char :=
  cs.flatMap fun c =>
    if special c || 0x7F < c.toNat then (Utf8.encode (String.singleton c)).flatMap escapeByte
    else [c]

def inControls (c : Char) : Bool := c.toNat < 32 || c.toNat == 127

private def oneOf (s : String) (c : Char) : Bool := s.toList.contains c

def inFragment (c : Char) : Bool := inControls c || oneOf " \"<>\x60" c
def inPath (c : Char) : Bool := inFragment c || oneOf "#?\x7b\x7d" c
def inUserInfo (c : Char) : Bool := inPath c || oneOf "/:;=@[\\]^|" c
def inQuery (c : Char) : Bool := inControls c || oneOf " \"#<>" c
def inSpecialQuery (c : Char) : Bool := inQuery c || c == '\''

def hexDigit? (c : Char) : Option Nat :=
  if '0' ≤ c ∧ c ≤ '9' then some (c.toNat - 48)
  else if 'a' ≤ c ∧ c ≤ 'f' then some (c.toNat - 87)
  else if 'A' ≤ c ∧ c ≤ 'F' then some (c.toNat - 55)
  else none

/-- The bytes of a text with its escapes undone; a `%` that begins no escape stands for itself. -/
def decodeBytes : List Char → List UInt8
  | [] => []
  | '%' :: a :: b :: rest =>
    match hexDigit? a, hexDigit? b with
    | some x, some y => UInt8.ofNat (x * 16 + y) :: decodeBytes rest
    | _, _ => 0x25 :: decodeBytes (a :: b :: rest)
  | c :: rest => Utf8.encode (String.singleton c) ++ decodeBytes rest

end MessageContract.Url
