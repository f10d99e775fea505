/-!
# UTF-8

Decoding of byte sequences, strictly and with replacement characters. A sequence that breaks off
or goes wrong is replaced as a whole up to the byte that cannot continue it.
-/

namespace MessageContract.Utf8

/-- What a lead byte announces: how many bytes follow, and the range of the first of them. -/
structure Lead where
  follow : Nat
  low : Nat
  high : Nat
  value : Nat

/-- The meaning of a lead byte, if it is one. -/
def lead? (b : Nat) : Option Lead :=
  if b < 0x80 then some ⟨0, 0, 0, b⟩
  else if b < 0xC2 then none
  else if b < 0xE0 then some ⟨1, 0x80, 0xBF, b - 0xC0⟩
  else if b == 0xE0 then some ⟨2, 0xA0, 0xBF, 0⟩
  else if b == 0xED then some ⟨2, 0x80, 0x9F, 0xD⟩
  else if b < 0xF0 then some ⟨2, 0x80, 0xBF, b - 0xE0⟩
  else if b == 0xF0 then some ⟨3, 0x90, 0xBF, 0⟩
  else if b < 0xF4 then some ⟨3, 0x80, 0xBF, b - 0xF0⟩
  else if b == 0xF4 then some ⟨3, 0x80, 0x8F, 4⟩
  else none

/-- Where the decoder stands inside a sequence. -/
structure Partial where
  follow : Nat
  low : Nat
  high : Nat
  value : Nat

/-- One decoded piece: a character, or `none` for a faulty sequence. -/
abbrev Piece := Option Char

/-- Reads a byte where a sequence may start. -/
def start (b : Nat) : List Piece × Option Partial :=
  match lead? b with
  | none => ([none], none)
  | some ⟨0, _, _, v⟩ => ([some (Char.ofNat v)], none)
  | some ⟨n + 1, lo, hi, v⟩ => ([], some ⟨n + 1, lo, hi, v⟩)

/-- Reads one byte. -/
def step (state : Option Partial) (b : Nat) : List Piece × Option Partial :=
  match state with
  | none => start b
  | some p =>
    if p.low ≤ b && b ≤ p.high then
      let v := p.value * 64 + (b - 0x80)
      if p.follow ≤ 1 then ([some (Char.ofNat v)], none)
      else ([], some ⟨p.follow - 1, 0x80, 0xBF, v⟩)
    else
      let (pieces, next) := start b
      (none :: pieces, next)

/-- The pieces of a byte sequence, read from a state. -/
def piecesFrom : Option Partial → List UInt8 → List Piece
  | none, [] => []
  | some _, [] => [none]
  | state, b :: rest =>
    let (pieces, next) := step state b.toNat
    pieces ++ piecesFrom next rest

/-- The pieces of a byte sequence. -/
def pieces (bytes : List UInt8) : List Piece := piecesFrom none bytes

/-- The text, if every byte belongs to a well-formed sequence. -/
def decode? (bytes : List UInt8) : Option String :=
  ((pieces bytes).mapM id).map String.ofList

/-- The text with U+FFFD in place of each faulty sequence. -/
def decodeLossy (bytes : List UInt8) : String :=
  String.ofList ((pieces bytes).map (·.getD '\uFFFD'))

/-- The bytes of a text. -/
def encode (s : String) : List UInt8 := s.toUTF8.toList

end MessageContract.Utf8
