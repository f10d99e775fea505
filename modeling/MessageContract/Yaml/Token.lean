import MessageContract.Yaml.Fault
import MessageContract.Text.Utf8

/-!
# YAML tokens

The kinds of tokens, and reading each kind that has inner structure: directives, anchors, tags and
scalars. How tokens follow one another is the matter of `Tokens`.
-/

namespace MessageContract.Yaml

/-- How a scalar is written. -/
inductive Style
  | plain
  | singleQuoted
  | doubleQuoted
  | literal
  | folded
  deriving DecidableEq, Repr

inductive TokenKind
  | streamEnd
  | versionDirective (major minor : Nat)
  | tagDirective (handle replacement : String)
  | documentStart
  | documentEnd
  | blockSequenceStart
  | blockMappingStart
  | blockEnd
  | flowSequenceStart
  | flowSequenceEnd
  | flowMappingStart
  | flowMappingEnd
  | blockEntry
  | flowEntry
  | key
  | value
  | alias (name : String)
  | anchor (name : String)
  | tag (handle suffix : String)
  | scalar (text : String) (style : Style)
  deriving DecidableEq, Repr

/-- A token and where it begins and ends. -/
structure Token where
  kind : TokenKind
  start : Mark
  stop : Mark

/-- A token read from a source, with what follows it. -/
abbrev Lexeme := Except Fault (Token × Source)

private def fault {α : Type} (s : Source) (context : Context) (began : Mark) (cause : Cause) :
    Except Fault α :=
  .error ⟨cause, s.mark, some (context, began)⟩

/-! ## Tags -/

private def hexOf? (c : Char) : Option Nat :=
  if '0' ≤ c ∧ c ≤ '9' then some (c.toNat - 48)
  else if 'a' ≤ c ∧ c ≤ 'f' then some (c.toNat - 87)
  else if 'A' ≤ c ∧ c ≤ 'F' then some (c.toNat - 55)
  else none

/-- Reads `%` and two digits. -/
def readOctet (context : Context) (began : Mark) (s : Source) : Except Fault (Nat × Source) :=
  match s.rest with
  | '%' :: a :: b :: _ =>
    match hexOf? a, hexOf? b with
    | some x, some y => .ok (x * 16 + y, s.skip 3)
    | _, _ => fault s context began .expectedOctet
  | _ => fault s context began .expectedOctet

/-- Reads the continuation octets of an escaped character. -/
def readTrailingOctets (context : Context) (began : Mark) :
    Nat → Nat → Source → Except Fault (Nat × Source)
  | 0, value, s => .ok (value, s)
  | n + 1, value, s => do
    let (octet, s') ← readOctet context began s
    if octet / 64 != 2 then fault s context began .badTrailingOctet
    else readTrailingOctets context began n (value * 64 + octet % 64) s'

/-- Reads one character written as escaped octets. -/
def readEscapedCharacter (context : Context) (began : Mark) (s : Source) :
    Except Fault (Char × Source) := do
  let (octet, s') ← readOctet context began s
  let lead : Option (Nat × Nat) :=
    if octet < 0x80 then some (0, octet)
    else if octet / 32 == 6 then some (1, octet % 32)
    else if octet / 16 == 14 then some (2, octet % 16)
    else if octet / 8 == 30 then some (3, octet % 8)
    else none
  match lead with
  | none => fault s context began .badLeadingOctet
  | some (n, value) =>
    let (code, s'') ← readTrailingOctets context began n value s'
    .ok (Char.ofNat code, s'')

/-- A character of a tag; `,`, `[` and `]` only between angle brackets. -/
def isTagCharacter (verbatim : Bool) (c : Char) : Bool :=
  isWord c || ";/?:@&=+$.%!~*'()".toList.contains c || (verbatim && ",[]".toList.contains c)

/-- Reads the characters of a tag; `acc` holds those before, last first. -/
def readTagCharacters (verbatim : Bool) (context : Context) (began : Mark) :
    Nat → List Char → Source → Except Fault (List Char × Source)
  | 0, acc, s => .ok (acc.reverse, s)
  | fuel + 1, acc, s =>
    if !isTagCharacter verbatim s.head then .ok (acc.reverse, s)
    else if s.head == '%' then do
      let (c, s) ← readEscapedCharacter context began s
      readTagCharacters verbatim context began fuel (c :: acc) s
    else readTagCharacters verbatim context began fuel (s.head :: acc) (s.skip 1)

/-- Reads the rest of a tag after `lead`, which has no leading `!` and may be empty only with
`open`. -/
def readTagUri (verbatim directive : Bool) (lead : List Char) (mayBeEmpty : Bool) (began : Mark)
    (s : Source) : Except Fault (String × Source) := do
  let context := if directive then Context.tagDirectiveUri else .tagUri
  let (text, s') ← readTagCharacters verbatim context began (s.rest.length + 1) [] s
  if text.isEmpty && lead.isEmpty && !mayBeEmpty then fault s' context began .expectedTagUri
  else .ok (String.ofList (lead ++ text), s')

/-- Reads `!`, or `!word!`, or as much as there is of it. -/
def readTagHandle (directive : Bool) (began : Mark) (s : Source) :
    Except Fault (String × Source) := do
  if s.head != '!' then
    fault s (if directive then .tagDirectiveHandle else .tag) began .expectedBang
  else
    let (word, s) := (s.skip 1).takeWhile isWord
    if s.head == '!' then .ok (String.ofList ('!' :: word ++ ['!']), s.skip 1)
    else if directive && !word.isEmpty then fault s .tagDirectiveName began .expectedBang
    else .ok (String.ofList ('!' :: word), s)

/-- Reads a tag: `!<uri>`, `!handle!suffix`, `!suffix` or `!`. -/
def readTag (inFlow : Bool) (s : Source) : Lexeme := do
  let began := s.mark
  let (kind, s) ←
    if s.peek 1 == '<' then do
      let (uri, s) ← readTagUri true false [] false began (s.skip 2)
      if s.head != '>' then fault s .tag began .expectedTagEnd
      else pure (TokenKind.tag "" uri, s.skip 1)
    else do
      let (handle, s) ← readTagHandle false began s
      if 1 < handle.length && handle.endsWith "!" then
        let (suffix, s) ← readTagUri false false [] false began s
        pure (TokenKind.tag handle suffix, s)
      else
        let (suffix, s) ← readTagUri false false (handle.toList.drop 1) true began s
        pure (if suffix.isEmpty then TokenKind.tag "" "!" else TokenKind.tag "!" suffix, s)
  if (inFlow && s.head == ',') || isGapOrEnd s.head then .ok (⟨kind, began, s.mark⟩, s)
  else fault s .tag began .expectedGapOrBreak

/-- Reads `&name` or `*name`. -/
def readAnchor (isAlias : Bool) (s : Source) : Lexeme :=
  let began := s.mark
  let (name, s) := (s.skip 1).takeWhile isWord
  let ends := isGapOrEnd s.head || "?:,]\x7d%@\x60".toList.contains s.head
  if name.isEmpty || !ends then
    fault s (if isAlias then .aliasName else .anchorName) began .expectedAnchorName
  else
    let text := String.ofList name
    .ok (⟨if isAlias then .alias text else .anchor text, began, s.mark⟩, s)

/-! ## Directives -/

/-- Reads a part of a version. -/
def readVersionNumber (began : Mark) (s : Source) : Except Fault (Nat × Source) :=
  let (digits, s') := s.takeWhile Char.isDigit
  if 9 < digits.length then fault (s.skip 9) .versionDirective began .longVersion
  else if digits.isEmpty then fault s' .versionDirective began .expectedVersion
  else .ok (digits.foldl (fun n c => n * 10 + (c.toNat - 48)) 0, s')

/-- Reads a line that starts with `%`. -/
def readDirective (s : Source) : Lexeme := do
  let began := s.mark
  let (name, s) := (s.skip 1).takeWhile isWord
  if name.isEmpty then fault s .directive began .expectedDirectiveName
  else if !isGapOrEnd s.head then fault s .directive began .strangeDirectiveName
  else
    let (kind, s) ←
      if name == "YAML".toList then do
        let (major, s) ← readVersionNumber began (s.skipWhile isGap)
        if s.head != '.' then fault s .versionDirective began .expectedVersionPoint
        else
          let (minor, s) ← readVersionNumber began (s.skip 1)
          pure (TokenKind.versionDirective major minor, s)
      else if name == "TAG".toList then do
        let (handle, s) ← readTagHandle true began (s.skipWhile isGap)
        if !isGap s.head then fault s .tagDirective began .expectedGap
        else
          let (uri, s) ← readTagUri true true [] false began (s.skipWhile isGap)
          if !isGapOrEnd s.head then fault s .tagDirective began .expectedGapOrBreak
          else pure (TokenKind.tagDirective handle uri, s)
      else fault s .directive began .unknownDirective
    let stop := s.mark
    let s := (s.skipWhile isGap).skipComment
    if !isBreakOrEnd s.head then fault s .directive began .expectedLineEnd
    else .ok (⟨kind, began, stop⟩, s.readBreak.2)

/-! ## Folding of line breaks -/

/-- White space inside a scalar, not yet part of its text: gaps of one line, or line breaks. -/
structure Fold where
  gaps : List Char
  broken : Bool
  first : List Char
  more : List Char

def Fold.empty : Fold := ⟨[], false, [], []⟩

/-- One line break becomes a space, further ones stay. -/
def Fold.join (f : Fold) : List Char :=
  if f.broken then
    if f.first.head? == some '\n' then (if f.more.isEmpty then [' '] else f.more)
    else f.first ++ f.more
  else f.gaps

/-- Reads gaps and line breaks; after a break, tabs left of `indent` are refused. -/
def readFold (indent : Int) (began : Mark) : Nat → Fold → Source → Except Fault (Fold × Source)
  | 0, f, s => .ok (f, s)
  | fuel + 1, f, s =>
    if isGap s.head then
      if f.broken && s.head == '\t' && (s.mark.column : Int) < indent then
        fault s .plainScalar began .tabViolatesIndentation
      else
        readFold indent began fuel (if f.broken then f else { f with gaps := f.gaps ++ [s.head] })
          (s.skip 1)
    else if isBreak s.head then
      let (b, s) := s.readBreak
      readFold indent began fuel
        (if f.broken then { f with more := f.more ++ b } else ⟨[], true, b, f.more⟩) s
    else .ok (f, s)

/-! ## Plain scalars -/

/-- Reads the characters of a plain scalar up to white space or an indicator that ends it. -/
def readPlainRun (inFlow : Bool) (began : Mark) :
    Nat → List Char → Source → Except Fault (List Char × Source)
  | 0, acc, s => .ok (acc.reverse, s)
  | fuel + 1, acc, s =>
    let c := s.head
    if isGapOrEnd c then .ok (acc.reverse, s)
    else if inFlow && c == ':' && ",?[]\x7b\x7d".toList.contains (s.peek 1) then
      fault s .plainScalar began .unexpectedColon
    else if (c == ':' && isGapOrEnd (s.peek 1)) || (inFlow && ",[]\x7b\x7d".toList.contains c) then
      .ok (acc.reverse, s)
    else readPlainRun inFlow began fuel (c :: acc) (s.skip 1)

/-- A plain scalar as far as it is read. -/
structure Plain where
  text : List Char
  pending : Fold
  stop : Mark
  source : Source

/-- Reads the lines of a plain scalar. -/
def readPlainLines (inFlow : Bool) (indent : Int) (began : Mark) :
    Nat → Plain → Except Fault Plain
  | 0, p => .ok p
  | fuel + 1, p => do
    let s := p.source
    if s.atDocumentIndicator || s.head == '#' then .ok p
    else
      let (run, s) ← readPlainRun inFlow began (s.rest.length + 1) [] s
      let p : Plain :=
        if run.isEmpty then { p with source := s }
        else ⟨p.text ++ p.pending.join ++ run, .empty, s.mark, s⟩
      if !(isGap s.head || isBreak s.head) then .ok p
      else
        let (f, s) ← readFold indent began (s.rest.length + 1) p.pending s
        let p : Plain := { p with pending := f, source := s }
        if !inFlow && (s.mark.column : Int) < indent then .ok p
        else readPlainLines inFlow indent began fuel p

/-- Reads a plain scalar; the flag says whether it ended behind a line break. -/
def readPlain (inFlow : Bool) (indent : Int) (s : Source) :
    Except Fault (Token × Source × Bool) := do
  let p ← readPlainLines inFlow indent s.mark (s.rest.length + 1) ⟨[], .empty, s.mark, s⟩
  .ok (⟨.scalar (String.ofList p.text) .plain, s.mark, p.stop⟩, p.source, p.pending.broken)

/-! ## Quoted scalars -/

/-- What a backslash and a character stand for: a character, or digits to be read. -/
def escapeOf? : Char → Option (Char ⊕ Nat)
  | '0' => some (.inl (Char.ofNat 0))
  | 'a' => some (.inl (Char.ofNat 7))
  | 'b' => some (.inl (Char.ofNat 8))
  | 't' => some (.inl '\t')
  | '\t' => some (.inl '\t')
  | 'n' => some (.inl '\n')
  | 'v' => some (.inl (Char.ofNat 0xB))
  | 'f' => some (.inl (Char.ofNat 0xC))
  | 'r' => some (.inl '\r')
  | 'e' => some (.inl (Char.ofNat 0x1B))
  | ' ' => some (.inl ' ')
  | '"' => some (.inl '"')
  | '/' => some (.inl '/')
  | '\\' => some (.inl '\\')
  | 'N' => some (.inl (Char.ofNat 0x85))
  | '_' => some (.inl (Char.ofNat 0xA0))
  | 'L' => some (.inl (Char.ofNat 0x2028))
  | 'P' => some (.inl (Char.ofNat 0x2029))
  | 'x' => some (.inr 2)
  | 'u' => some (.inr 4)
  | 'U' => some (.inr 8)
  | _ => none

/-- Reads an escape sequence other than an escaped line break. -/
def readQuotedEscape (began : Mark) (s : Source) : Except Fault (Char × Source) :=
  match escapeOf? (s.peek 1) with
  | none => fault s .quotedEscape began .unknownEscape
  | some (.inl c) => .ok (c, s.skip 2)
  | some (.inr n) =>
    let s := s.skip 2
    let digits := (List.range n).map fun i => hexOf? (s.peek i)
    match digits.mapM id with
    | none => fault s .quotedEscape began .expectedHexadecimal
    | some ds =>
      let code := ds.foldl (fun v d => v * 16 + d) 0
      if (0xD800 ≤ code && code ≤ 0xDFFF) || 0x10FFFF < code then
        fault s .quotedEscape began .badCharacterCode
      else .ok (Char.ofNat code, s.skip n)

/-- Reads the characters of a quoted scalar up to white space, its quote or an escaped line break;
the flag tells the last. -/
def readQuotedRun (single : Bool) (began : Mark) :
    Nat → List Char → Source → Except Fault (List Char × Bool × Source)
  | 0, acc, s => .ok (acc.reverse, false, s)
  | fuel + 1, acc, s =>
    let c := s.head
    if isGapOrEnd c then .ok (acc.reverse, false, s)
    else if single && c == '\'' && s.peek 1 == '\'' then
      readQuotedRun single began fuel ('\'' :: acc) (s.skip 2)
    else if c == (if single then '\'' else '"') then .ok (acc.reverse, false, s)
    else if !single && c == '\\' then
      if isBreak (s.peek 1) then .ok (acc.reverse, true, (s.skip 1).readBreak.2)
      else do
        let (x, s) ← readQuotedEscape began s
        readQuotedRun single began fuel (x :: acc) s
    else readQuotedRun single began fuel (c :: acc) (s.skip 1)

/-- Reads a quoted scalar after its opening quote. -/
def readQuotedLines (single : Bool) (began : Mark) :
    Nat → List Char → Source → Except Fault (List Char × Source)
  | 0, text, s => .ok (text, s)
  | fuel + 1, text, s => do
    if s.atDocumentIndicator then fault s .quotedScalar began .indicatorInScalar
    else if s.head == nul then fault s .quotedScalar began .endInScalar
    else
      let (run, escapedBreak, s) ← readQuotedRun single began (s.rest.length + 1) [] s
      let text := text ++ run
      if s.head == (if single then '\'' else '"') then .ok (text, s.skip 1)
      else
        let broken := { Fold.empty with broken := escapedBreak }
        let (f, s) ← readFold 0 began (s.rest.length + 1) broken s
        readQuotedLines single began fuel (text ++ f.join) s

def readQuoted (single : Bool) (s : Source) : Lexeme := do
  let (text, s') ← readQuotedLines single s.mark (s.rest.length + 1) [] (s.skip 1)
  let style := if single then Style.singleQuoted else .doubleQuoted
  .ok (⟨.scalar (String.ofList text) style, s.mark, s'.mark⟩, s')

/-! ## Block scalars -/

/-- What becomes of the line breaks at the end of a block scalar. -/
inductive Chomping
  | strip
  | clip
  | keep
  deriving DecidableEq

/-- The header of a block scalar: chomping and explicit indentation, in either order. -/
def readBlockHeader (began : Mark) (s : Source) :
    Except Fault (Chomping × Option Nat × Source) := do
  let chomping (s : Source) : Option (Chomping × Source) :=
    if s.head == '+' then some (.keep, s.skip 1)
    else if s.head == '-' then some (.strip, s.skip 1)
    else none
  let indentation (s : Source) : Except Fault (Option Nat × Source) :=
    if s.head == '0' then fault s .blockScalar began .zeroIndentation
    else if s.head.isDigit then .ok (some (s.head.toNat - 48), s.skip 1)
    else .ok (none, s)
  match chomping s with
  | some (c, s) =>
    let (n, s) ← indentation s
    .ok (c, n, s)
  | none =>
    let (n, s) ← indentation s
    match n, chomping s with
    | some _, some (c, s) => .ok (c, n, s)
    | _, _ => .ok (.clip, n, s)

/-- The empty lines before a line of a block scalar. -/
structure Gap where
  breaks : List Char
  widest : Nat
  stop : Mark

/-- Reads indentation and empty lines; without a known indentation every space counts. -/
def readGap (indent : Option Nat) (began : Mark) :
    Nat → Gap → Source → Except Fault (Gap × Source)
  | 0, g, s => .ok (g, s)
  | fuel + 1, g, s =>
    let room := match indent with
      | some n => n - s.mark.column
      | none => s.rest.length
    let spaces := ((s.rest.take room).takeWhile (· == ' ')).length
    let s := s.skip spaces
    let g := { g with widest := max g.widest s.mark.column }
    let inside := match indent with
      | some n => s.mark.column < n
      | none => true
    if inside && s.head == '\t' then fault s .blockScalar began .tabForIndentation
    else if !isBreak s.head then .ok (g, s)
    else
      let (b, s) := s.readBreak
      readGap indent began fuel { g with breaks := g.breaks ++ b, stop := s.mark } s

/-- A block scalar as far as it is read. -/
structure Block where
  text : List Char
  /-- The break that ends the line before. -/
  lineEnd : List Char
  /-- The empty lines behind it. -/
  empties : List Char
  /-- Whether the line before began with white space. -/
  spaced : Bool
  stop : Mark

/-- Reads the lines of a block scalar at their indentation. -/
def readBlockLines (folded : Bool) (indent : Nat) (began : Mark) :
    Nat → Block → Source → Except Fault (Block × Source)
  | 0, b, s => .ok (b, s)
  | fuel + 1, b, s => do
    if s.mark.column != indent || s.head == nul then .ok (b, s)
    else
      let spaced := isGap s.head
      let joint :=
        if folded && b.lineEnd.head? == some '\n' && !b.spaced && !spaced then
          (if b.empties.isEmpty then [' '] else [])
        else b.lineEnd
      let (line, s) := s.takeWhile (fun c => !isBreakOrEnd c)
      let (lineEnd, s) := s.readBreak
      let (g, s) ← readGap (some indent) began (s.rest.length + 1) ⟨[], 0, s.mark⟩ s
      readBlockLines folded indent began fuel
        ⟨b.text ++ joint ++ b.empties ++ line, lineEnd, g.breaks, spaced, g.stop⟩ s

/-- Reads a literal or folded block scalar below the indentation `parent`. -/
def readBlock (folded : Bool) (parent : Int) (s : Source) : Lexeme := do
  let began := s.mark
  let (chomping, increment, s) ← readBlockHeader began (s.skip 1)
  let s := (s.skipWhile isGap).skipComment
  if !isBreakOrEnd s.head then fault s .blockScalar began .expectedLineEnd
  else
    let s := s.readBreak.2
    let given := increment.map fun n => if 0 ≤ parent then parent.toNat + n else n
    let (g, s) ← readGap given began (s.rest.length + 1) ⟨[], 0, s.mark⟩ s
    let indent := given.getD (max (max g.widest (parent + 1).toNat) 1)
    let (b, s) ← readBlockLines folded indent began (s.rest.length + 1)
      ⟨[], [], g.breaks, false, g.stop⟩ s
    let text := b.text ++ (if chomping == .strip then [] else b.lineEnd) ++
      (if chomping == .keep then b.empties else [])
    .ok (⟨.scalar (String.ofList text) (if folded then .folded else .literal), began, b.stop⟩, s)

end MessageContract.Yaml
