import MessageContract.Regex.Basic
import MessageContract.Regex.Grammar

/-!
# Reading patterns

The text of a pattern as a tree. This grammar has looks around, references back, conditions and
groups that keep to their first choice; a brace that begins no count stands for itself, and an item
has one repetition. Switches last to the end of the pattern, or of the group that they open.
-/

namespace MessageContract.Regex

/-- The switches set by `(?…)`. -/
structure Flags where
  fold : Bool
  multiline : Bool
  dotAll : Bool
  /-- Repetitions take as little as possible first. -/
  ungreedy : Bool
  spaced : Bool

/-- What is left to read, the switches, and the groups met so far. -/
structure Reading where
  rest : List Char
  flags : Flags
  groups : Nat
  names : List (String × Nat)
  /-- The groups that were referred to. -/
  referred : List Nat
  /-- Whether a group was referred to by its number alone. -/
  byNumber : Bool

namespace Reading

def move (s : Reading) (rest : List Char) : Reading := { s with rest := rest }

/-- A group that was opened before and is referred to. -/
def refer? (s : Reading) (index : Nat) : Option Reading :=
  if index ≤ s.groups then some { s with referred := index :: s.referred } else none

end Reading

/-! ## Blanks and comments -/

/-- The text behind a comment in parentheses. -/
private def pastComment : List Char → Option (List Char)
  | ')' :: rest => some rest
  | '\\' :: _ :: rest => pastComment rest
  | _ :: rest => pastComment rest
  | [] => none

/-- The text behind comments, and behind blanks if they do not count. -/
private def pastGap (spaced : Bool) : Nat → List Char → Option (List Char)
  | 0, cs => some cs
  | fuel + 1, cs =>
    match cs with
    | '(' :: '?' :: '#' :: rest => (pastComment rest).bind (pastGap spaced fuel)
    | '#' :: rest =>
      if spaced then pastGap spaced fuel ((rest.dropWhile (· != '\n')).drop 1) else some cs
    | c :: rest =>
      if spaced && " \r\n\t".toList.contains c then pastGap spaced fuel rest else some cs
    | [] => some []

private def Reading.skip? (s : Reading) : Option Reading :=
  match s.rest with
  | [] => some s
  | c :: _ =>
    if "(# \r\n\t".toList.contains c then
      (pastGap s.flags.spaced (s.rest.length + 1) s.rest).map s.move
    else some s

/-- The rest behind a closing parenthesis. -/
private def Reading.close? (s : Reading) : Option Reading := do
  let s ← s.skip?
  match s.rest with
  | ')' :: rest => some (s.move rest)
  | _ => none

/-! ## Numbers and names -/

private def decimal? (cs : List Char) : Option (Nat × List Char) :=
  let digits := cs.takeWhile Char.isDigit
  let n := digits.foldl (fun n c => n * 10 + (c.toNat - 48)) 0
  if digits.isEmpty || Nat.pow 2 64 ≤ n then none else some (n, cs.drop digits.length)

private def inName (c : Char) : Bool := Grammar.isAlphanumeric c || c == '_'

/-- A name up to a closing sign. -/
private def name? (stop : Char) (cs : List Char) : Option (String × List Char) :=
  let name := cs.takeWhile inName
  match name, cs.drop name.length with
  | [], _ => none
  | name, c :: rest => if c == stop then some (String.ofList name, rest) else none
  | _, [] => none

/-- The group with a name, or with a number in place of the name. -/
private def groupOf? (s : Reading) (name : String) : Option Nat :=
  (s.names.lookup name).or ((decimal? name.toList).bind fun (n, rest) =>
    if rest.isEmpty then some n else none)

/-- A reference to a group by name, number, or how many groups ago it was opened. -/
private def readNamed (s : Reading) (stop : Char) (cs : List Char) : Option (Nat × Reading) :=
  match cs with
  | '-' :: cs => do
    let (ago, rest) ← decimal? cs
    match rest with
    | c :: rest =>
      if c == stop && ago ≤ s.groups then
        let index := s.groups + 1 - ago
        (s.refer? index).map fun s => (index, s.move rest)
      else none
    | [] => none
  | cs => do
    let (name, rest) ← name? stop cs
    let index ← groupOf? s name
    (s.refer? index).map fun s => (index, s.move rest)

/-- A reference to a group by its number, which has to be less than half the size of the pattern. -/
private def readNumbered (half : Nat) (s : Reading) (cs : List Char) : Option (Nat × Reading) := do
  let (index, rest) ← decimal? cs
  if index < half then
    let s ← s.refer? index
    some (index, { s with rest := rest, byNumber := true })
  else none

/-! ## Escapes -/

/-- Reads a character given by its number: a fixed count of digits, or up to eight in braces. -/
private def readHex (count : Nat) (cs : List Char) : Option (Char × List Char) :=
  let isHex (c : Char) : Bool := (Url.hexDigit? c).isSome
  let digits := cs.take count
  if digits.length == count && digits.all isHex then
    (charOfHex? digits).map fun c => (c, cs.drop count)
  else
    match cs with
    | '\x7b' :: cs =>
      let digits := cs.takeWhile isHex
      match cs.drop digits.length with
      | '\x7d' :: rest =>
        if digits.isEmpty || 8 < digits.length then none
        else (charOfHex? digits).map fun c => (c, rest)
      | _ => none
    | _ => none

/-- The character that a letter behind a backslash stands for. -/
private def letter? (c : Char) : Option Char :=
  match c with
  | 'a' => some '\x07'
  | 'b' => some '\x08'
  | 'f' => some '\x0c'
  | 'n' => some '\n'
  | 'r' => some '\r'
  | 't' => some '\t'
  | 'v' => some '\x0b'
  | 'e' => some '\x1b'
  | c => if c.isAlpha && !"kAzBKG".toList.contains c then none else some c

/-- The digits of base sixteen, or all other characters. -/
private def hexSet (negated : Bool) : Bracket :=
  .bracket negated (.items [.range '0' '9', .range 'A' 'F', .range 'a' 'f'])

/-- The sets that a letter behind a backslash stands for. -/
private def readSet (c : Char) (rest : List Char) : Option (Bracket × List Char) :=
  match c with
  | 'd' => some (.shorthand .digit false, rest)
  | 'D' => some (.shorthand .digit true, rest)
  | 's' => some (.shorthand .space false, rest)
  | 'S' => some (.shorthand .space true, rest)
  | 'w' => some (.shorthand .word false, rest)
  | 'W' => some (.shorthand .word true, rest)
  | 'h' => some (hexSet false, rest)
  | 'H' => some (hexSet true, rest)
  | _ =>
    if c == 'p' || c == 'P' then
      match readQuery false rest with
      | .ok ((q, no), rest) => some (.query q (no != (c == 'P')), rest)
      | .error _ => none
    else none

private def isSetLetter (c : Char) : Bool := "dDsSwWhHpP".toList.contains c

/-- Reads a character behind a backslash. -/
private def readChar (cs : List Char) : Option (Char × List Char) :=
  match cs with
  | 'x' :: rest => readHex 2 rest
  | 'u' :: rest => readHex 4 rest
  | 'U' :: rest => readHex 8 rest
  | c :: rest => (letter? c).map (·, rest)
  | [] => none

/-! ## Sets in brackets -/

/-- A character as it is written between brackets, whatever it means there. -/
private def quoted (c : Char) : List Char :=
  if isMeta c then ['\\', c] else [c]

/-- What is written for a set within brackets. -/
private def copy (cs rest : List Char) : List Char := '\\' :: cs.take (cs.length - rest.length)

/-- Reads up to the bracket that closes as many as were opened, and gives the text in which every
escape is one of the plain grammar. -/
private def bracketText? : Nat → Nat → List Char → Option (List Char × List Char)
  | 0, _, _ => none
  | fuel + 1, open', cs =>
    let add (text : List Char) (r : Option (List Char × List Char)) :
        Option (List Char × List Char) := r.map fun (more, rest) => (text ++ more, rest)
    match cs with
    | [] => none
    | '\\' :: c :: rest =>
      if c == 'h' then add "[0-9A-Fa-f]".toList (bracketText? fuel open' rest)
      else if c == 'H' then add "[^0-9A-Fa-f]".toList (bracketText? fuel open' rest)
      else if isSetLetter c then do
        let (_, left) ← readSet c rest
        add (copy (c :: rest) left) (bracketText? fuel open' left)
      else if c.isDigit then none
      else do
        let (d, rest) ← readChar (c :: rest)
        add (quoted d) (bracketText? fuel open' rest)
    | '[' :: rest => add ['['] (bracketText? fuel (open' + 1) rest)
    | ']' :: rest =>
      if open' ≤ 1 then some ([']'], rest) else add [']'] (bracketText? fuel (open' - 1) rest)
    | c :: rest => add [c] (bracketText? fuel open' rest)

/-- Reads a set behind its opening bracket. -/
private def readBracket (fold : Bool) (cs : List Char) : Option (CharSet × List Char) := do
  let (start, cs) := match cs with
    | '^' :: cs => (['[', '^'], cs)
    | cs => (['['], cs)
  let (start, cs) := match cs with
    | ']' :: cs => (start ++ [']'], cs)
    | cs => (start, cs)
  let (text, rest) ← bracketText? (cs.length + 1) 1 cs
  let b ← Bracket.ofText? (start ++ text)
  let chars ← b.chars? fold
  some (chars, rest)

/-! ## Repetition -/

/-- Reads a count behind its opening brace. -/
private def readCount (s : Reading) (cs : List Char) : Option (Nat × Option Nat × List Char) := do
  let gap (cs : List Char) : Option (List Char) := ((s.move cs).skip?).map (·.rest)
  let cs ← gap cs
  let (least, cs) ← if cs.head? == some ',' then some (0, cs) else decimal? cs
  match ← gap cs with
  | '\x7d' :: rest => some (least, some least, rest)
  | ',' :: rest =>
    let rest ← gap rest
    let (most, rest) := match decimal? rest with
      | some (n, rest) => (some n, rest)
      | none => (none, rest)
    match ← gap rest with
    | '\x7d' :: rest => some (least, most, rest)
    | _ => none
  | _ => none

/-- How often an item is repeated, if a repetition follows. -/
private def readRepetition (s : Reading) : Option (Nat × Option Nat × List Char) :=
  match s.rest with
  | '?' :: rest => some (0, some 1, rest)
  | '*' :: rest => some (0, none, rest)
  | '+' :: rest => some (1, none, rest)
  | '\x7b' :: rest => readCount s rest
  | _ => none

/-- The item with the repetition that follows it. A further `+` keeps what the repetition took. -/
private def withRepetition (r : Regex) (s : Reading) : Option (Regex × Reading) := do
  let s ← s.skip?
  match readRepetition s with
  | none => some (r, s)
  | some (least, most, rest) =>
    if !r.isRepeatable then none
    else
      let s ← (s.move rest).skip?
      let (lazy, rest) := match s.rest with
        | '?' :: rest => (true, rest)
        | rest => (false, rest)
      let r := Regex.repeat r least most (lazy == s.flags.ungreedy)
      match rest with
      | '+' :: rest => some (.atomic r, s.move rest)
      | rest => some (r, s.move rest)

/-! ## Groups -/

private def setFlag? (f : Flags) (on : Bool) (c : Char) : Option Flags :=
  match c with
  | 'i' => some { f with fold := on }
  | 'm' => some { f with multiline := on }
  | 's' => some { f with dotAll := on }
  | 'U' => some { f with ungreedy := on }
  | 'x' => some { f with spaced := on }
  | 'u' => if on then some f else none
  | _ => none

/-- Reads switches up to `:` or `)`, which is left. The number tells how many signs were read. -/
private def readSwitches : Nat → Bool → Nat → Reading → Option (Nat × Bool × Reading)
  | 0, _, _, _ => none
  | fuel + 1, on, n, s => do
    let s ← s.skip?
    match s.rest with
    | ':' :: _ => some (n, on, s)
    | ')' :: _ => some (n, on, s)
    | '-' :: rest => if on then readSwitches fuel false (n + 1) (s.move rest) else none
    | c :: rest =>
      let f ← setFlag? s.flags on c
      readSwitches fuel on (n + 1) { s with flags := f, rest := rest }
    | [] => none

/-- What an opening parenthesis begins. -/
private inductive Opening
  | look (ahead negated : Bool)
  | capture (name : Option String)
  | back (index : Nat)
  | atomic
  | condition
  /-- Switches for all that follows. -/
  | switches
  /-- A group with switches of its own. -/
  | plain

/-- Reads what follows an opening parenthesis. -/
private def readOpening (s : Reading) : Option (Opening × Reading) :=
  let named (rest : List Char) : Option (Opening × Reading) :=
    (name? '>' rest).map fun (n, rest) => (.capture (some n), s.move rest)
  match s.rest with
  | '?' :: '=' :: rest => some (.look true false, s.move rest)
  | '?' :: '!' :: rest => some (.look true true, s.move rest)
  | '?' :: '<' :: '=' :: rest => some (.look false false, s.move rest)
  | '?' :: '<' :: '!' :: rest => some (.look false true, s.move rest)
  | '?' :: '<' :: rest => named rest
  | '?' :: 'P' :: '<' :: rest => named rest
  | '?' :: 'P' :: '=' :: rest => do
    let (name, rest) ← name? ')' rest
    let index ← groupOf? s name
    (s.refer? index).map fun s => (.back index, s.move rest)
  | '?' :: '>' :: rest => some (.atomic, s.move rest)
  | '?' :: '(' :: rest => some (.condition, s.move rest)
  | '?' :: rest => do
    let (n, on, s) ← readSwitches (rest.length + 1) true 0 (s.move rest)
    if !on && n == 1 then none
    else
      match s.rest with
      | ':' :: rest => some (.plain, s.move rest)
      | _ :: rest => if n == 0 then none else some (.switches, s.move rest)
      | [] => none
  | _ => some (.capture none, s)

/-! ## Patterns -/

/-- How deep groups may be nested. -/
def groupLimit : Nat := 64

private def sequence (found : List Regex) : Regex :=
  match found with
  | [] => .empty
  | [r] => r
  | rs => .seq rs.reverse

/-- The pattern for a condition with what follows it. -/
private def conditional (test body : Regex) : Regex :=
  let test := match test with
    | .back i => .holds i
    | r => r
  let (yes, no) := match body with
    | .alt [yes, no] => (yes, no)
    | .alt (yes :: others) => (yes, .alt others)
    | yes => (yes, .empty)
  if yes.isEmpty && no.isEmpty then test else .condition test yes no

private def readEscaped (half : Nat) (s : Reading) (cs : List Char) : Option (Regex × Reading) :=
  let edge (k : Edge) (rest : List Char) : Option (Regex × Reading) := some (.edge k, s.move rest)
  match cs with
  | [] => none
  | 'k' :: '<' :: rest => (readNamed s '>' rest).map fun (i, s) => (.back i, s)
  | 'k' :: '\'' :: rest => (readNamed s '\'' rest).map fun (i, s) => (.back i, s)
  | 'k' :: _ => none
  | 'A' :: rest => edge .textStart rest
  | 'z' :: rest => edge .textEnd rest
  | 'b' :: '\x7b' :: _ => none
  | 'B' :: '\x7b' :: _ => none
  | 'b' :: rest => edge .boundary rest
  | 'B' :: rest => edge .noBoundary rest
  | '<' :: rest => edge .wordStart rest
  | '>' :: rest => edge .wordEnd rest
  | 'K' :: rest => some (.keepOut, s.move rest)
  | 'G' :: rest => some (.origin, s.move rest)
  | c :: rest =>
    if c.isDigit then (readNumbered half s cs).map fun (i, s) => (.back i, s)
    else if isSetLetter c then do
      let (b, rest) ← readSet c rest
      let chars ← b.chars? (s.flags.fold && c != 'h' && c != 'H')
      some (.set chars, s.move rest)
    else do
      let (d, rest) ← readChar cs
      some (.char d s.flags.fold, s.move rest)

mutual

/-- Reads choices up to the end of the group. -/
private def readChoices (half : Nat) : Nat → Nat → List Regex → Reading → Option (Regex × Reading)
  | 0, _, _, _ => none
  | fuel + 1, nested, found, s => do
    let (r, s) ← readItems half fuel nested [] s
    match s.rest with
    | '|' :: rest => readChoices half fuel nested (r :: found) (s.move rest)
    | _ =>
      if !found.isEmpty then some (.alt (r :: found).reverse, s)
      else if s.byNumber && !s.names.isEmpty then none
      else some (r, s)

/-- Reads items up to `|` or the end of the group. -/
private def readItems (half : Nat) : Nat → Nat → List Regex → Reading → Option (Regex × Reading)
  | 0, _, _, _ => none
  | fuel + 1, nested, found, s => do
    let s ← s.skip?
    let item (r : Regex) (s : Reading) : Option (Regex × Reading) := do
      let (r, s) ← withRepetition r s
      readItems half fuel nested (if r.isEmpty then found else r :: found) s
    match s.rest with
    | [] => some (sequence found, s)
    | '|' :: _ => some (sequence found, s)
    | ')' :: _ => some (sequence found, s)
    | '.' :: rest => item (.any s.flags.dotAll) (s.move rest)
    | '^' :: rest =>
      item (.edge (if s.flags.multiline then .lineStart else .textStart)) (s.move rest)
    | '$' :: rest => item (.edge (if s.flags.multiline then .lineEnd else .textEnd)) (s.move rest)
    | '(' :: rest => do
      let (r, s) ← readGroup half fuel nested (s.move rest)
      item r s
    | '\\' :: rest => do
      let (r, s) ← readEscaped half s rest
      item r s
    | '[' :: rest => do
      let (chars, rest) ← readBracket s.flags.fold rest
      item (.set chars) (s.move rest)
    | c :: rest =>
      if c == '+' || c == '*' || c == '?' then none
      else item (.char c s.flags.fold) (s.move rest)

/-- Reads a group behind its opening parenthesis. -/
private def readGroup (half : Nat) : Nat → Nat → Reading → Option (Regex × Reading)
  | 0, _, _ => none
  | fuel + 1, nested, s => do
    let nested := nested + 1
    if groupLimit ≤ nested then none
    else
      let s ← s.skip?
      let flags := s.flags
      let (opening, s) ← readOpening s
      let inside (s : Reading) : Option (Regex × Reading) := do
        let (r, s) ← readChoices half fuel nested [] s
        some (r, ← s.close?)
      match opening with
      | .look ahead negated => (inside s).map fun (r, s) => (.look ahead negated r, s)
      | .atomic => (inside s).map fun (r, s) => (.atomic r, s)
      | .capture name =>
        let index := s.groups + 1
        let names := (name.map fun n => (n, index)).toList ++ s.names
        (inside { s with groups := index, names := names }).map fun (r, s) =>
          (.group index false r, s)
      | .back index => some (.back index, s)
      | .switches => some (.empty, s)
      | .plain => (inside s).map fun (r, s) => (r, { s with flags := flags })
      | .condition => readCondition half fuel nested s

/-- Reads a condition and what follows it, behind the inner parenthesis. -/
private def readCondition (half : Nat) : Nat → Nat → Reading → Option (Regex × Reading)
  | 0, _, _ => none
  | fuel + 1, nested, s => do
    let (test, s) ← match s.rest with
      | '<' :: rest => (readNamed s '>' rest).map fun (i, s) => (Regex.back i, s)
      | '\'' :: rest => (readNamed s '\'' rest).map fun (i, s) => (Regex.back i, s)
      | c :: _ =>
        if c.isDigit then (readNumbered half s s.rest).map fun (i, s) => (Regex.back i, s)
        else readChoices half fuel nested [] s
      | [] => none
    let s ← s.close?
    let (body, t) ← readChoices half fuel nested [] s
    if body.isEmpty && t.rest.length == s.rest.length then
      match test with
      | .back i => some (.holds i, ← t.close?)
      | _ => none
    else some (conditional test body, ← t.close?)

end

/-- The tree of a pattern in this grammar. -/
def readTree? (cs : List Char) : Option Regex := do
  let bytes := cs.foldl (fun n c => n + c.utf8Size) 0
  let start : Reading := ⟨cs, ⟨false, false, false, false, false⟩, 0, [], [], false⟩
  let (r, s) ← readChoices (bytes / 2) (4 * cs.length + 8) 0 [] start
  if s.rest.isEmpty then some (r.markReferred s.referred) else none

end MessageContract.Regex
