import MessageContract.Regex.Bracket.Reader

/-!
# The plain grammar of patterns

The grammar that every pattern is held against first: choices, items, groups, brackets, repetitions
and escapes. A look around or a reference back is beyond it; such a pattern is taken as it stands.
In all others, digits, spaces and word characters are spelled out as sets.
-/

namespace MessageContract.Regex.Grammar

/-- How deep a pattern may be nested. -/
def nestLimit : Nat := 250

/-- What is left to read, and what was met so far. -/
structure Reading where
  rest : List Char
  names : List String
  /-- How much text was left from each shorthand on. -/
  shorthands : List Nat
  /-- Whether the bell was written as a letter behind a backslash. -/
  bell : Bool

/-- Letters and digits of any script. -/
def isAlphanumeric (c : Char) : Bool := Property.alphabetic.holds c || Category.number.holds c

/-! ## Items

An item is known by how deep it is nested; switches are none, as they cannot be repeated. -/

private def deepest (depths : List Nat) : Nat := depths.foldl max 0

private def depthOfItems : List (Option Nat) → Nat
  | [] => 0
  | [d] => d.getD 0
  | ds => deepest (ds.map (·.getD 0)) + 1

private def depthOfChoices (choices : List Nat) (last : List (Option Nat)) : Nat :=
  if choices.isEmpty then depthOfItems last else max (deepest choices) (depthOfItems last) + 1

/-! ## Counts -/

/-- Reads digits; blanks before and behind them do not count. -/
private def readDecimal (spaced : Bool) (cs : List Char) : Except Fault (Nat × List Char) :=
  let rec digits : Nat → List Char → List Char × List Char
    | fuel + 1, c :: cs =>
      if c.isDigit then
        let (ds, rest) := digits fuel (skip spaced cs)
        (c :: ds, rest)
      else ([], c :: cs)
    | _, cs => ([], cs)
  let (ds, rest) := digits (cs.length + 1) (cs.dropWhile isBlank)
  let n := ds.foldl (fun n c => n * 10 + (c.toNat - 48)) 0
  if ds.isEmpty || Nat.pow 2 32 ≤ n then refused
  else .ok (n, if spaced then skip true rest else rest.dropWhile isBlank)

/-- Reads a count behind its opening brace. -/
private def readCount (spaced : Bool) (cs : List Char) : Except Fault (List Char) := do
  let (least, rest) ← readDecimal spaced (skip spaced cs)
  let (most, rest) ← match rest with
    | ',' :: rest =>
      match skip spaced rest with
      | '\x7d' :: rest => .ok (least, '\x7d' :: rest)
      | rest => readDecimal spaced rest
    | rest => .ok (least, rest)
  match rest with
  | '\x7d' :: rest =>
    if most < least then refused
    else
      match skip spaced rest with
      | '?' :: rest => .ok rest
      | rest => .ok rest
  | _ => refused

/-! ## Groups -/

/-- Reads switches; the first result tells what they say of blanks. Each may be given once. -/
private def readSwitches (seen : List Char) (spaced : Option Bool) (last : Option Char) :
    List Char → Except Fault (Option Bool × List Char)
  | [] => refused
  | c :: rest =>
    if c == ':' || c == ')' then if last == some '-' then refused else .ok (spaced, c :: rest)
    else if seen.contains c || !"-imsUuRx".toList.contains c then refused
    else
      let spaced := if c == 'x' then some (!seen.contains '-') else spaced
      readSwitches (c :: seen) spaced (some c) rest

/-- Reads the name of a group up to `>`. -/
private def readName (s : Reading) (cs : List Char) : Except Fault Reading :=
  let name := cs.takeWhile (· != '>')
  let inside (c : Char) : Bool := isAlphanumeric c || "_.[]".toList.contains c
  match name, cs.drop name.length with
  | c :: more, '>' :: rest =>
    let text := String.ofList name
    if (c == '_' || Property.alphabetic.holds c) && more.all inside && !s.names.contains text then
      .ok { s with rest := rest, names := text :: s.names }
    else refused
  | _, _ => refused

/-- What an opening parenthesis begins. -/
private inductive Opening
  | switches (spaced : Option Bool)
  | group (spaced : Option Bool)

private def readOpening (s : Reading) (cs : List Char) : Except Fault (Opening × Reading) :=
  match cs with
  | '?' :: '=' :: _ => .error .beyond
  | '?' :: '!' :: _ => .error .beyond
  | '?' :: '<' :: '=' :: _ => .error .beyond
  | '?' :: '<' :: '!' :: _ => .error .beyond
  | '?' :: 'P' :: '<' :: rest => (readName s rest).map fun s => (.group none, s)
  | '?' :: '<' :: rest => (readName s rest).map fun s => (.group none, s)
  | '?' :: rest => do
    let (spaced, left) ← readSwitches [] none none rest
    match left with
    | ')' :: left =>
      if left.length + 1 == rest.length then refused
      else .ok (.switches spaced, { s with rest := left })
    | left => .ok (.group spaced, { s with rest := left.drop 1 })
  | cs => .ok (.group none, { s with rest := cs })

/-! ## Patterns -/

private def withQuestion (cs : List Char) : List Char :=
  match cs with
  | '?' :: rest => rest
  | rest => rest

/-- The items with the last of them repeated. -/
private def repeated? : List (Option Nat) → Option (List (Option Nat))
  | some d :: found => some (some (d + 1) :: found)
  | _ => none

/-- Reads items and choices up to the end of the group, and tells how deep they are nested. -/
def readItems : Nat → Bool → List Nat → List (Option Nat) → Reading → Except Fault (Nat × Reading)
  | 0, _, _, _, _ => refused
  | fuel + 1, spaced, choices, found, s =>
    let go (found : List (Option Nat)) (s : Reading) : Except Fault (Nat × Reading) :=
      readItems fuel spaced choices found s
    let again (rest : List Char) : Except Fault (Nat × Reading) :=
      match repeated? found with
      | some found => go found { s with rest := rest }
      | none => refused
    let s := { s with rest := skip spaced s.rest }
    match s.rest with
    | [] => .ok (depthOfChoices choices found, s)
    | ')' :: _ => .ok (depthOfChoices choices found, s)
    | '|' :: rest =>
      readItems fuel spaced (depthOfItems found :: choices) [] { s with rest := rest }
    | '(' :: rest => do
      let (opening, s) ← readOpening s (skip spaced rest)
      match opening with
      | .switches on => readItems fuel (on.getD spaced) choices (none :: found) s
      | .group on =>
        let (depth, s) ← readItems fuel (on.getD spaced) [] [] s
        match s.rest with
        | ')' :: rest => go (some (depth + 1) :: found) { s with rest := rest }
        | _ => refused
    | '[' :: rest => do
      let (b, t) ← Bracket.read spaced ⟨rest, s.shorthands⟩
      go (some b.depth :: found) { s with rest := t.rest, shorthands := t.shorthands }
    | '*' :: rest => again (withQuestion rest)
    | '+' :: rest => again (withQuestion rest)
    | '?' :: rest => again (withQuestion rest)
    | '\x7b' :: rest =>
      if (repeated? found).isNone then refused
      else
        match readCount spaced rest with
        | .ok rest => again rest
        | .error e => .error e
    | '\\' :: cs => do
      let (e, rest) ← readEscape spaced cs
      let s := { s with rest := rest }
      match e with
      | .shorthand _ _ =>
        go (some 0 :: found) { s with shorthands := (cs.length + 1) :: s.shorthands }
      | .bell => go (some 0 :: found) { s with bell := true }
      | _ => go (some 0 :: found) s
    | _ :: rest => go (some 0 :: found) { s with rest := rest }

/-- Reads a whole text. -/
def read (text : List Char) : Except Fault Reading := do
  let (depth, s) ← readItems (2 * text.length + 2) false [] [] ⟨text, [], [], false⟩
  if s.rest.isEmpty && depth ≤ nestLimit && !s.bell then .ok s else refused

/-! ## Spelling out -/

/-- The characters that count as white space in schemas. -/
def blanks : String := " \t\n\r\x0b\x0c\u00a0\ufeff\u2003\u2029"

/-- The set that a shorthand stands for in schemas. -/
def spelling (c : Char) : List Char :=
  let inside := match c.toLower with
    | 'd' => "0-9"
    | 'w' => "A-Za-z0-9_"
    | _ => blanks
  '[' :: ((if c.isUpper then ['^'] else []) ++ inside.toList ++ [']'])

/-- A text with its shorthands spelled out; they are given in the order of their places. -/
def spellOut : Nat → List Nat → List Char → List Char
  | left, place :: places, '\\' :: c :: rest =>
    if left == place then spelling c ++ spellOut (left - 2) places rest
    else '\\' :: spellOut (left - 1) (place :: places) (c :: rest)
  | left, places, c :: rest => c :: spellOut (left - 1) places rest
  | _, _, [] => []

/-- A text with the control character in place of `\c` and a letter. -/
private def withControl (left : Nat) (text : List Char) : List Char :=
  let (before, behind) := text.splitAt (text.length - left)
  match behind.drop 2 with
  | l :: rest => before ++ Char.ofNat (l.toNat % 32) :: rest
  | [] => text

/-- A pattern in the plain grammar with its shorthands spelled out, or as it stands if it goes
beyond that grammar; nothing if it is no pattern. -/
def spelled? : Nat → List Char → Option (List Char)
  | 0, _ => none
  | fuel + 1, text =>
    match read text with
    | .ok s => some (spellOut text.length s.shorthands.reverse text)
    | .error .beyond => some text
    | .error (.control left) => spelled? fuel (withControl left text)
    | .error .wrong => none

/-- A pattern with its shorthands spelled out, if it is one. -/
def normal? (text : String) : Option (List Char) := spelled? (text.length + 1) text.toList

end MessageContract.Regex.Grammar
