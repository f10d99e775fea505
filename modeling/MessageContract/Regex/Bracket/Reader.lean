import MessageContract.Regex.Escape

/-!
# Reading sets in brackets

A bracket is closed by the next `]` that is not the first in it. A `[` opens a set within the
set, unless it begins the name of a set of ASCII, as in `[:alpha:]`. Two signs `&&`, `--` and `~~`
combine all that stands before them with what follows.
-/

namespace MessageContract.Regex.Bracket

/-- What is left to read, and where shorthands were met: how much text each had before it ended. -/
structure Reading where
  rest : List Char
  shorthands : List Nat

/-! ## Single items -/

/-- Reads one item: a character or an escape. -/
private def readItem (spaced : Bool) (s : Reading) : Except Fault (Bracket × Reading) :=
  match s.rest with
  | [] => refused
  | '\\' :: cs => do
    let (e, rest) ← readEscape spaced cs
    let s : Reading := { s with rest := rest }
    match e with
    | .char c => .ok (.range c c, s)
    | .bell => .ok (.range '\x07' '\x07', s)
    | .shorthand kind negated =>
      .ok (.shorthand kind negated, { s with shorthands := (cs.length + 1) :: s.shorthands })
    | .query q negated => .ok (.query q negated, s)
    | .edge => refused
  | c :: rest => .ok (.range c c, { s with rest := rest })

/-- The first character behind one more character, blanks and the start of a comment apart. -/
private def second? (spaced : Bool) (cs : List Char) : Option Char :=
  if spaced then
    match (cs.drop 1).dropWhile isBlank with
    | '#' :: rest => (rest.dropWhile isBlank).head?
    | rest => rest.head?
  else (cs.drop 1).head?

/-- Reads an item, or a range of characters. A hyphen before `]` or another hyphen is no range. -/
private def readRange (spaced : Bool) (s : Reading) : Except Fault (Bracket × Reading) := do
  let (first, s) ← readItem spaced s
  match skip spaced s.rest with
  | [] => refused
  | '-' :: cs =>
    let next := second? spaced ('-' :: cs)
    if next == some ']' || next == some '-' then .ok (first, { s with rest := '-' :: cs })
    else
      let rest := skip spaced cs
      let (last, s) ← readItem spaced { s with rest := rest }
      match first, last with
      | .range low _, .range high _ => if high < low then refused else .ok (.range low high, s)
      | _, _ => refused
  | rest => .ok (first, { s with rest := rest })

/-- Reads the name of a set of ASCII, behind its first bracket. -/
private def readName? (cs : List Char) : Option (Bracket × List Char) :=
  match cs with
  | ':' :: cs =>
    let (negated, cs) := match cs with
      | '^' :: cs => (true, cs)
      | cs => (false, cs)
    let name := cs.takeWhile (· != ':')
    match cs.drop name.length with
    | ':' :: ']' :: rest =>
      (asciiSet? (String.ofList name)).map fun s => (.ascii s negated, rest)
    | _ => none
  | _ => none

/-! ## Whole brackets -/

/-- Reads hyphens, which stand for themselves at the start. -/
private def readDashes (spaced : Bool) : Nat → List Char → List Bracket × List Char
  | fuel + 1, '-' :: cs =>
    let (dashes, rest) := readDashes spaced fuel (skip spaced cs)
    (.range '-' '-' :: dashes, rest)
  | _, cs => ([], cs)

/-- What a bracket starts with: whether it is negated, and the signs that stand for themselves. -/
private def readStart (spaced : Bool) (cs : List Char) :
    Except Fault (Bool × List Bracket × List Char) :=
  let (negated, cs) := match skip spaced cs with
    | '^' :: cs => (true, skip spaced cs)
    | cs => (false, cs)
  let (dashes, cs) := readDashes spaced (cs.length + 1) cs
  match dashes, cs with
  | _, [] => refused
  | [], ']' :: cs =>
    let rest := skip spaced cs
    if rest.isEmpty then refused else .ok (negated, [.range ']' ']'], rest)
  | dashes, cs => .ok (negated, dashes, cs)

/-- The items read so far, latest first, combined with what stands before them. -/
private def combined (before : Option (SetOperation × Bracket)) (found : List Bracket) : Bracket :=
  match before with
  | some (operation, b) => .combine operation b (.items found.reverse)
  | none => .items found.reverse

mutual

/-- Reads a set behind its opening bracket. -/
def readOpened (spaced : Bool) : Nat → Reading → Except Fault (Bracket × Reading)
  | 0, _ => refused
  | fuel + 1, s => do
    let (negated, start, rest) ← readStart spaced s.rest
    let (content, s) ← readContent spaced fuel none start { s with rest := rest }
    .ok (.bracket negated content, s)

/-- Reads items up to the closing bracket. -/
def readContent (spaced : Bool) : Nat → Option (SetOperation × Bracket) → List Bracket → Reading →
    Except Fault (Bracket × Reading)
  | 0, _, _, _ => refused
  | fuel + 1, before, found, s =>
    let operation (o : SetOperation) (rest : List Char) : Except Fault (Bracket × Reading) :=
      readContent spaced fuel (some (o, combined before found)) [] { s with rest := rest }
    match skip spaced s.rest with
    | [] => refused
    | ']' :: rest => .ok (combined before found, { s with rest := rest })
    | '&' :: '&' :: rest => operation .common rest
    | '-' :: '-' :: rest => operation .difference rest
    | '~' :: '~' :: rest => operation .symmetricDifference rest
    | '[' :: rest => do
      match readName? rest with
      | some (b, rest) => readContent spaced fuel before (b :: found) { s with rest := rest }
      | none =>
        let (b, s) ← readOpened spaced fuel { s with rest := rest }
        readContent spaced fuel before (b :: found) s
    | rest => do
      let (b, s) ← readRange spaced { s with rest := rest }
      readContent spaced fuel before (b :: found) s

end

/-- Reads a set behind its opening bracket. -/
def read (spaced : Bool) (s : Reading) : Except Fault (Bracket × Reading) :=
  readOpened spaced (2 * s.rest.length + 2) s

/-- The set that a text with its brackets describes, if it is one. -/
def ofText? (text : List Char) : Option Bracket :=
  match text with
  | '[' :: cs =>
    match read false ⟨cs, []⟩ with
    | .ok (b, ⟨[], _⟩) => some b
    | _ => none
  | _ => none

end MessageContract.Regex.Bracket
