import MessageContract.Yaml.Token

/-!
# From text to tokens

Block structure shows only in indentation, so tokens for its beginnings and ends are put in where
the indentation changes. A mapping key shows only by the `:` behind it: until that is seen, its
tokens wait, and `key` (with `blockMappingStart` before it) is put in front of them.
-/

namespace MessageContract.Yaml

/-- A place where a key may have begun. -/
structure PossibleKey where
  /-- Whether the block structure demands a key here. -/
  required : Bool
  /-- The number of the token that begins it. -/
  number : Nat
  mark : Mark

structure Scanner where
  source : Source
  /-- Tokens that wait, the oldest first. -/
  waiting : List Token
  /-- How many tokens have been handed out. -/
  delivered : Nat
  /-- The current indentation and those around it. -/
  indent : Int
  outer : List Int
  /-- How many flow collections are open. -/
  flow : Nat
  /-- Whether a key may begin here. -/
  keyAllowed : Bool
  /-- The possible key of each open flow collection, the innermost first, and of the block. -/
  keys : List (Option PossibleKey)

namespace Scanner

/-- At the start of a text. -/
def ofText (text : List Char) : Scanner :=
  ⟨⟨text, .start⟩, [], 1, -1, [], 0, true, [none]⟩

private def fault {α : Type} (s : Scanner) (context : Context) (began : Mark) (cause : Cause) :
    Except Fault α :=
  .error ⟨cause, s.source.mark, some (context, began)⟩

private def bareFault {α : Type} (s : Scanner) (cause : Cause) : Except Fault α :=
  .error ⟨cause, s.source.mark, none⟩

/-- Adds a token to those that wait. -/
def push (s : Scanner) (t : Token) : Scanner := { s with waiting := s.waiting ++ [t] }

/-- The number of the next token. -/
def nextNumber (s : Scanner) : Nat := s.delivered + s.waiting.length

/-- Puts a token in front of the waiting token of a number. -/
def insertAt (s : Scanner) (number : Nat) (t : Token) : Scanner :=
  { s with waiting := s.waiting.insertIdx (number - s.delivered) t }

/-! ## Possible keys -/

/-- A key lies on one line and is no longer than 1024 characters. -/
def isStale (here : Mark) (k : PossibleKey) : Bool :=
  k.mark.line < here.line || k.mark.index + 1024 < here.index

private def missingColon (s : Scanner) (k : PossibleKey) : Fault :=
  ⟨.expectedColon, s.source.mark, some (.simpleKey, k.mark)⟩

/-- Gives up the possible keys that have become impossible, the outermost first. -/
def dropStaleKeys (s : Scanner) : Except Fault Scanner :=
  let stale (k : Option PossibleKey) : Option PossibleKey :=
    k.filter (isStale s.source.mark)
  match s.keys.reverse.findSome? fun k => (stale k).filter (·.required) with
  | some k => .error (missingColon s k)
  | none => .ok { s with keys := s.keys.map fun k => if (stale k).isSome then none else k }

/-- Gives up the innermost possible key. -/
def dropKey (s : Scanner) : Except Fault Scanner :=
  match s.keys with
  | some k :: rest =>
    if k.required then .error (missingColon s k) else .ok { s with keys := none :: rest }
  | _ => .ok s

/-- Notes that a key may begin here, where that is allowed. -/
def saveKey (s : Scanner) : Except Fault Scanner :=
  if s.keyAllowed then do
    let s ← s.dropKey
    let required := s.flow == 0 && s.indent == s.source.mark.column
    let k : PossibleKey := ⟨required, s.nextNumber, s.source.mark⟩
    .ok { s with keys := some k :: s.keys.drop 1 }
  else .ok s

/-! ## Indentation -/

/-- Opens a block collection at a column, if it lies deeper; its token goes in front of the token
of `number`, or at the end. -/
def openBlock (s : Scanner) (column : Nat) (number : Option Nat) (kind : TokenKind) (mark : Mark) :
    Scanner :=
  if s.flow == 0 && s.indent < column then
    let s := { s with outer := s.indent :: s.outer, indent := column }
    let t : Token := ⟨kind, mark, mark⟩
    match number with
    | some n => s.insertAt n t
    | none => s.push t
  else s

/-- Ends the indentations deeper than a column; gives their number and those that remain. -/
def endings (column : Int) : Int → List Int → Nat × Int × List Int
  | indent, [] => (0, indent, [])
  | indent, o :: outer =>
    if column < indent then
      let (n, rest) := endings column o outer
      (n + 1, rest)
    else (0, indent, o :: outer)

/-- Closes the block collections deeper than a column. -/
def closeBlocks (s : Scanner) (column : Int) : Scanner :=
  if s.flow == 0 then
    let (n, indent, outer) := endings column s.indent s.outer
    let t : Token := ⟨.blockEnd, s.source.mark, s.source.mark⟩
    { s with waiting := s.waiting ++ List.replicate n t, indent := indent, outer := outer }
  else s

/-! ## Reading one token -/

/-- Past white space, comments and line breaks. -/
def toNextToken : Nat → Scanner → Scanner
  | 0, s => s
  | fuel + 1, s =>
    let src := s.source
    let src := if src.mark.index == 0 && src.head.toNat == 0xFEFF then src.skip 1 else src
    let tabs := s.flow != 0 || !s.keyAllowed
    let src := src.skipWhile fun c => c == ' ' || (tabs && c == '\t')
    let src := src.skipComment
    if isBreak src.head then
      toNextToken fuel
        { s with source := src.readBreak.2, keyAllowed := s.keyAllowed || s.flow == 0 }
    else { s with source := src }

/-- A token of `n` characters at the place reached. -/
def mark (s : Scanner) (n : Nat) (kind : TokenKind) : Scanner :=
  let src := s.source.skip n
  { s.push ⟨kind, s.source.mark, src.mark⟩ with source := src }

private def lexeme (s : Scanner) (read : Lexeme) : Except Fault Scanner := do
  let (t, src) ← read
  .ok { s.push t with source := src }

/-- Ends the blocks before a directive, a document indicator or the end of the text. -/
def endBlocks (s : Scanner) : Except Fault Scanner := do
  let s ← (s.closeBlocks (-1)).dropKey
  .ok { s with keyAllowed := false }

/-- The `:` of a mapping value. -/
def readValue (s : Scanner) : Except Fault Scanner :=
  match s.keys with
  | some k :: rest =>
    let s := s.insertAt k.number ⟨.key, k.mark, k.mark⟩
    let s := s.openBlock k.mark.column (some k.number) .blockMappingStart k.mark
    .ok ({ s with keys := none :: rest, keyAllowed := false }.mark 1 .value)
  | _ =>
    if s.flow == 0 && !s.keyAllowed then s.bareFault .valueNotAllowed
    else
      let s := s.openBlock s.source.mark.column none .blockMappingStart s.source.mark
      .ok ({ s with keyAllowed := s.flow == 0 }.mark 1 .value)

/-- The `?` of a mapping key. -/
def readKey (s : Scanner) : Except Fault Scanner :=
  if s.flow == 0 && !s.keyAllowed then s.bareFault .keyNotAllowed
  else do
    let s ← (s.openBlock s.source.mark.column none .blockMappingStart s.source.mark).dropKey
    .ok ({ s with keyAllowed := s.flow == 0 }.mark 1 .key)

/-- The `-` of a sequence entry. -/
def readEntry (s : Scanner) : Except Fault Scanner :=
  if s.flow == 0 && !s.keyAllowed then s.bareFault .entryNotAllowed
  else do
    let s ← (s.openBlock s.source.mark.column none .blockSequenceStart s.source.mark).dropKey
    .ok ({ s with keyAllowed := true }.mark 1 .blockEntry)

/-- A bracket or brace that opens a flow collection. -/
def openFlow (s : Scanner) (kind : TokenKind) : Except Fault Scanner := do
  let s ← s.saveKey
  .ok ({ s with keys := none :: s.keys, flow := s.flow + 1, keyAllowed := true }.mark 1 kind)

/-- A bracket or brace that closes a flow collection. -/
def closeFlow (s : Scanner) (kind : TokenKind) : Except Fault Scanner := do
  let s ← s.dropKey
  let s := if s.flow == 0 then s else { s with keys := s.keys.drop 1, flow := s.flow - 1 }
  .ok ({ s with keyAllowed := false }.mark 1 kind)

/-- A scalar, anchor or tag, with which a key may begin. -/
private def keyLexeme (s : Scanner) (read : Lexeme) : Except Fault Scanner := do
  let s ← s.saveKey
  lexeme { s with keyAllowed := false } read

/-- Whether a plain scalar begins here. -/
def startsPlain (s : Scanner) : Bool :=
  let c := s.source.head
  let next := s.source.peek 1
  let indicator := "-?:,[]\x7b\x7d#&*!|>'\"%@\x60".toList.contains c
  !(isGapOrEnd c || indicator) || (c == '-' && !isGap next) ||
  (s.flow == 0 && (c == '?' || c == ':') && !isGapOrEnd next)

/-- Reads one token of the text, with the tokens that the indentation puts before it; at the end
of the text the token for that. -/
def readToken (s : Scanner) : Except Fault Scanner := do
  let s ← (s.toNextToken (s.source.rest.length + 1)).dropStaleKeys
  let s := s.closeBlocks s.source.mark.column
  let src := s.source
  let c := src.head
  let gapNext := isGapOrEnd (src.peek 1)
  if c == nul then
    let m := src.mark
    let m := if m.column == 0 then m else ⟨m.index, m.line + 1, 0⟩
    let s ← { s with source := ⟨[], m⟩ }.endBlocks
    .ok (s.mark 0 .streamEnd)
  else if src.mark.column == 0 && c == '%' then
    let s ← s.endBlocks
    s.lexeme (readDirective s.source)
  else if src.atDocumentIndicator then
    let s ← s.endBlocks
    .ok (s.mark 3 (if c == '-' then .documentStart else .documentEnd))
  else if c == '[' then s.openFlow .flowSequenceStart
  else if c == '{' then s.openFlow .flowMappingStart
  else if c == ']' then s.closeFlow .flowSequenceEnd
  else if c == '}' then s.closeFlow .flowMappingEnd
  else if c == ',' then
    let s ← s.dropKey
    .ok ({ s with keyAllowed := true }.mark 1 .flowEntry)
  else if c == '-' && gapNext then
    if s.flow == 0 then s.readEntry
    else
      let s ← s.dropKey
      .ok ({ s with keyAllowed := true }.mark 1 .blockEntry)
  else if c == '?' && (s.flow != 0 || gapNext) then s.readKey
  else if c == ':' && (s.flow != 0 || gapNext) then s.readValue
  else if c == '*' then s.keyLexeme (readAnchor true src)
  else if c == '&' then s.keyLexeme (readAnchor false src)
  else if c == '!' then s.keyLexeme (readTag (s.flow != 0) src)
  else if (c == '|' || c == '>') && s.flow == 0 then
    let s ← s.dropKey
    lexeme { s with keyAllowed := true } (readBlock (c == '>') s.indent src)
  else if c == '\'' then s.keyLexeme (readQuoted true src)
  else if c == '"' then s.keyLexeme (readQuoted false src)
  else if s.startsPlain then
    let s ← s.saveKey
    let (t, src, broken) ← readPlain (s.flow != 0) (s.indent + 1) src
    .ok { s.push t with source := src, keyAllowed := broken }
  else s.fault .nextToken src.mark .noTokenStart

/-- Whether the oldest waiting token may turn out to begin a key. -/
def headMayBeKey (s : Scanner) : Bool :=
  s.keys.any fun k => k.any (·.number == s.delivered)

/-- Hands out the tokens up to the end of the text or the first fault. -/
def run : Nat → Scanner → List Token → List Token × Option Fault
  | 0, _, acc => (acc.reverse, none)
  | fuel + 1, s, acc =>
    match s.waiting with
    | [] =>
      match s.readToken with
      | .error f => (acc.reverse, some f)
      | .ok s => run fuel s acc
    | t :: rest =>
      match s.dropStaleKeys with
      | .error f => (acc.reverse, some f)
      | .ok s =>
        if s.headMayBeKey then
          match s.readToken with
          | .error f => (acc.reverse, some f)
          | .ok s => run fuel s acc
        else if t.kind = .streamEnd then ((t :: acc).reverse, none)
        else run fuel { s with waiting := rest, delivered := s.delivered + 1 } (t :: acc)

end Scanner

/-- The byte offset of the first character that may not stand in a text. -/
def forbidden? : Nat → List Char → Option Nat
  | _, [] => none
  | n, c :: rest => if isAllowed c then forbidden? (n + c.utf8Size) rest else some n

/-- The tokens of a text up to its end or the first fault. -/
def tokens (text : String) : List Token × Option Fault :=
  match forbidden? 0 text.toList with
  | some n => ([], some ⟨.controlCharacter, ⟨n, 0, 0⟩, none⟩)
  | none => (Scanner.ofText text.toList).run (8 * text.length + 16) []

end MessageContract.Yaml
