/-!
# Text under a YAML reader

A `Source` is the text still to be read with the place reached. The end of the text reads as NUL,
a character that no accepted text holds.
-/

namespace MessageContract.Yaml

/-- A place in the text: characters, lines and characters of the line before it. -/
structure Mark where
  index : Nat
  line : Nat
  column : Nat
  deriving DecidableEq, Repr, Inhabited

namespace Mark

def start : Mark := ⟨0, 0, 0⟩

/-- Further along the same line. -/
def advance (m : Mark) (n : Nat) : Mark := ⟨m.index + n, m.line, m.column + n⟩

/-- At the start of the next line. -/
def nextLine (m : Mark) (n : Nat) : Mark := ⟨m.index + n, m.line + 1, 0⟩

/-- The very start of a text has no line to speak of. -/
def isStart (m : Mark) : Bool := m.line == 0 && m.column == 0

def write (m : Mark) : String :=
  if m.isStart then "position " ++ toString m.index
  else "line " ++ toString (m.line + 1) ++ " column " ++ toString (m.column + 1)

end Mark

/-! ## Character classes -/

/-- The end of the text. -/
def nul : Char := Char.ofNat 0

def isBreak (c : Char) : Bool :=
  c == '\n' || c == '\r' || c.toNat == 0x85 || c.toNat == 0x2028 || c.toNat == 0x2029

def isGap (c : Char) : Bool := c == ' ' || c == '\t'

def isBreakOrEnd (c : Char) : Bool := isBreak c || c == nul

def isGapOrEnd (c : Char) : Bool := isGap c || isBreakOrEnd c

/-- A letter, digit, `_` or `-`. -/
def isWord (c : Char) : Bool := c.isAlphanum || c == '_' || c == '-'

/-- A character that may stand in a text. -/
def isAllowed (c : Char) : Bool :=
  let n := c.toNat
  n == 9 || n == 10 || n == 13 || (0x20 ≤ n && n ≤ 0x7E) || n == 0x85 ||
  (0xA0 ≤ n && n ≤ 0xFFFD) || 0x10000 ≤ n

/-- The text still to be read, and the place reached. -/
structure Source where
  rest : List Char
  mark : Mark

namespace Source

/-- The character `n` places ahead. -/
def peek (s : Source) (n : Nat) : Char := s.rest.getD n nul

def head (s : Source) : Char := s.peek 0

/-- Past `n` characters of the line. -/
def skip (s : Source) (n : Nat) : Source := ⟨s.rest.drop n, s.mark.advance n⟩

/-- The characters of a class up to the first other one. -/
def takeWhile (s : Source) (p : Char → Bool) : List Char × Source :=
  let taken := s.rest.takeWhile p
  (taken, s.skip taken.length)

/-- Past the characters of a class. -/
def skipWhile (s : Source) (p : Char → Bool) : Source := (s.takeWhile p).2

/-- Reads a line break; the separators of lines and paragraphs stay as they are, all others read
as a line feed. -/
def readBreak (s : Source) : List Char × Source :=
  match s.rest with
  | '\r' :: '\n' :: rest => (['\n'], ⟨rest, s.mark.nextLine 2⟩)
  | c :: rest =>
    if c.toNat == 0x2028 || c.toNat == 0x2029 then ([c], ⟨rest, s.mark.nextLine 1⟩)
    else if isBreak c then (['\n'], ⟨rest, s.mark.nextLine 1⟩)
    else ([], s)
  | [] => ([], s)

/-- Past the rest of the line, if it holds only a comment. -/
def skipComment (s : Source) : Source :=
  if s.head == '#' then s.skipWhile (fun c => !isBreakOrEnd c) else s

/-- Whether `---` or `...` stands at the start of a line. -/
def atDocumentIndicator (s : Source) : Bool :=
  s.mark.column == 0 &&
  (match s.rest with
    | '-' :: '-' :: '-' :: _ => true
    | '.' :: '.' :: '.' :: _ => true
    | _ => false) &&
  isGapOrEnd (s.peek 3)

end Source
end MessageContract.Yaml
