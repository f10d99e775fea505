import MessageContract.Regex.Bracket.Basic
import MessageContract.Text.Blank
import MessageContract.Url.Percent

/-!
# Escapes

What stands behind a backslash in a pattern of the plain grammar. Where blanks do not count, they
may stand between the characters of an escape, and a `#` starts a comment up to the end of the line.
-/

namespace MessageContract.Regex

/-- Why a text is not of the plain grammar. -/
inductive Fault
  | wrong
  /-- A look around or a reference back, which the plain grammar does not have. -/
  | beyond
  /-- A control character as `\c` and a letter, with this much text from the backslash on. -/
  | control (left : Nat)
  deriving DecidableEq, Repr

/-- Takes a text for no pattern at all. -/
def refused {α : Type} : Except Fault α := .error .wrong

/-! ## Blanks -/

/-- The text behind blanks and comments. -/
def pastBlanks (inComment : Bool) : List Char → List Char
  | [] => []
  | c :: cs =>
    if inComment then pastBlanks (c != '\n') cs
    else if isBlank c then pastBlanks false cs
    else if c == '#' then pastBlanks true cs
    else c :: cs

/-- The text behind blanks and comments, if they do not count. -/
def skip (spaced : Bool) (cs : List Char) : List Char := if spaced then pastBlanks false cs else cs

/-! ## Characters by number -/

/-- The character with a number. -/
def charOf? (n : Nat) : Option Char := if n.isValidChar then some (Char.ofNat n) else none

/-- The character with a number in base sixteen. -/
def charOfHex? (digits : List Char) : Option Char :=
  (digits.foldlM (fun n c => (Url.hexDigit? c).map (n * 16 + ·)) 0).bind charOf?

private def isHex (c : Char) : Bool := (Url.hexDigit? c).isSome

/-- Reads a count of digits. -/
private def readDigits (spaced : Bool) : Nat → List Char → Except Fault (List Char × List Char)
  | 0, cs => .ok ([], cs)
  | n + 1, c :: cs =>
    if isHex c then (readDigits spaced n (skip spaced cs)).map fun (ds, rest) => (c :: ds, rest)
    else refused
  | _ + 1, [] => refused

/-- Reads up to a closing brace, without the blanks. -/
private def readBraces (spaced : Bool) : Nat → List Char → Option (List Char × List Char)
  | 0, _ => none
  | fuel + 1, cs =>
    match skip spaced cs with
    | [] => none
    | '\x7d' :: rest => some ([], rest)
    | c :: rest => (readBraces spaced fuel rest).map fun (inside, rest) => (c :: inside, rest)

/-- Reads a number of a count of digits, or of any digits in braces. -/
private def readNumber (spaced : Bool) (count : Nat) (cs : List Char) :
    Except Fault (Char × List Char) :=
  let digits := match skip spaced cs with
    | '\x7b' :: inside =>
      match readBraces spaced (inside.length + 1) inside with
      | some ([], _) => refused
      | some (ds, rest) => if ds.all isHex then .ok (ds, skip spaced rest) else refused
      | none => refused
    | cs => readDigits spaced count cs
  match digits with
  | .ok (ds, rest) =>
    match charOfHex? ds with
    | some c => .ok (c, rest)
    | none => refused
  | .error e => .error e

/-! ## Properties -/

/-- The two sides of the first place where a text has another. -/
private def splitAtFirst? (sep : List Char) : List Char → Option (List Char × List Char)
  | [] => none
  | c :: cs =>
    if sep.isPrefixOf (c :: cs) then some ([], (c :: cs).drop sep.length)
    else (splitAtFirst? sep cs).map fun (a, b) => (c :: a, b)

/-- The query in the braces behind `\p`, and whether it asks for all other characters. -/
def queryOf (inside : List Char) : Query × Bool :=
  let value (negated : Bool) (p : List Char × List Char) : Query × Bool :=
    (.value (String.ofList p.1) (String.ofList p.2), negated)
  match splitAtFirst? ['!', '='] inside, splitAtFirst? [':'] inside, splitAtFirst? ['='] inside with
  | some p, _, _ => value true p
  | none, some p, _ => value false p
  | none, none, some p => value false p
  | none, none, none => (.name (String.ofList inside), false)

/-- Reads what follows `\p`. -/
def readQuery (spaced : Bool) (cs : List Char) : Except Fault ((Query × Bool) × List Char) :=
  match skip spaced cs with
  | '\x7b' :: inside =>
    match readBraces spaced (inside.length + 1) inside with
    | some (name, rest) => .ok (queryOf name, rest)
    | none => refused
  | '\\' :: _ => refused
  | c :: rest => .ok ((.name (String.singleton c), false), rest)
  | [] => refused

/-! ## Escapes -/

/-- What an escape stands for. -/
inductive Escape
  | char (c : Char)
  /-- The bell, which is a character that may not stand on its own. -/
  | bell
  | shorthand (kind : Shorthand) (negated : Bool)
  | query (query : Query) (negated : Bool)
  /-- A place between characters. -/
  | edge
  deriving DecidableEq, Repr

/-- Characters with a meaning of their own, which a backslash takes away. -/
def isMeta (c : Char) : Bool := "\\.+*?()|[]\x7b\x7d^$#&-~".toList.contains c

/-- Characters that may stand behind a backslash and mean themselves. -/
def isEscapable (c : Char) : Bool :=
  isMeta c || (c.toNat < 128 && !c.isAlphanum && c != '<' && c != '>')

private def inPlaceName (c : Char) : Bool := c.isAlpha || c == '-'

/-- The letters of the name of a place, without the blanks. -/
private def placeName (spaced : Bool) : Nat → List Char → List Char × List Char
  | fuel + 1, c :: cs =>
    if inPlaceName c then
      let (name, rest) := placeName spaced fuel (skip spaced cs)
      (c :: name, rest)
    else ([], c :: cs)
  | _, cs => ([], cs)

/-- Reads what may follow `\b`: the name of a place in braces. Braces that hold no letter are left
to be read as a count. -/
private def readPlace (spaced : Bool) (cs : List Char) : Except Fault (List Char) :=
  match cs with
  | '\x7b' :: inside =>
    match skip spaced inside with
    | [] => refused
    | c :: rest =>
      if !inPlaceName c then .ok cs
      else
        let (name, rest) := placeName spaced (rest.length + 1) (c :: rest)
        match rest with
        | '\x7d' :: rest =>
          if ["start", "end", "start-half", "end-half"].contains (String.ofList name) then .ok rest
          else refused
        | _ => refused
  | cs => .ok cs

/-- Reads what follows a backslash. -/
def readEscape (spaced : Bool) (cs : List Char) : Except Fault (Escape × List Char) :=
  match cs with
  | [] => refused
  | c :: rest =>
    let char (d : Char) : Except Fault (Escape × List Char) := .ok (.char d, rest)
    let shorthand (kind : Shorthand) : Except Fault (Escape × List Char) :=
      .ok (.shorthand kind c.isUpper, rest)
    let numbered (count : Nat) : Except Fault (Escape × List Char) :=
      (readNumber spaced count rest).map fun (d, rest) => (.char d, rest)
    if c.isDigit then .error .beyond
    else if isEscapable c then char c
    else
      match c with
      | 'x' => numbered 2
      | 'u' => numbered 4
      | 'U' => numbered 8
      | 'p' => (readQuery spaced rest).map fun ((q, no), rest) => (.query q no, rest)
      | 'P' => (readQuery spaced rest).map fun ((q, no), rest) => (.query q !no, rest)
      | 'd' => shorthand .digit
      | 'D' => shorthand .digit
      | 's' => shorthand .space
      | 'S' => shorthand .space
      | 'w' => shorthand .word
      | 'W' => shorthand .word
      | 'a' => .ok (.bell, rest)
      | 'f' => char '\x0c'
      | 't' => char '\t'
      | 'n' => char '\n'
      | 'r' => char '\r'
      | 'v' => char '\x0b'
      | 'b' => (readPlace spaced rest).map fun rest => (.edge, rest)
      | 'A' => .ok (.edge, rest)
      | 'z' => .ok (.edge, rest)
      | 'B' => .ok (.edge, rest)
      | '<' => .ok (.edge, rest)
      | '>' => .ok (.edge, rest)
      | 'c' =>
        match rest with
        | l :: _ => if l.isAlpha then .error (.control (cs.length + 1)) else refused
        | [] => refused
      | _ => refused

end MessageContract.Regex
