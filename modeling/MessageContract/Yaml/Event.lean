import MessageContract.Yaml.Tokens

/-!
# From tokens to events

The grammar of documents and nodes. It is read one event at a time: `State.expect` says which part
of the grammar comes next, `State.outer` which parts follow when that one ends.
-/

namespace MessageContract.Yaml

/-- What a node says before its content: an anchor and a tag. -/
structure Properties where
  anchor : Option String
  tag : Option String
  deriving DecidableEq, Repr

def Properties.none : Properties := ⟨Option.none, Option.none⟩

inductive Event
  | documentStart
  | documentEnd
  | streamEnd
  | alias (name : String)
  | scalar (properties : Properties) (text : String) (style : Style)
  | sequenceStart (properties : Properties)
  | sequenceEnd
  | mappingStart (properties : Properties)
  | mappingEnd
  deriving DecidableEq, Repr

/-- An event and where it begins. -/
abbrev Placed := Event × Mark

/-- The parts of the grammar. `first` marks the part behind an opening token. -/
inductive Expect
  | documentStart (implicit : Bool)
  | documentContent
  | documentEnd
  | blockNode
  | sequenceEntry (first : Bool)
  | indentlessEntry
  | mappingKey (first : Bool)
  | mappingValue
  | flowEntry (first : Bool)
  | flowPairKey
  | flowPairValue
  | flowPairEnd
  | flowKey (first : Bool)
  | flowValue (empty : Bool)
  | nothing
  deriving DecidableEq, Repr

structure State where
  tokens : List Token
  /-- The fault behind the last token, if any. -/
  fault : Option Fault
  expect : Expect
  outer : List Expect
  /-- Where the open collections began. -/
  marks : List Mark
  /-- What the tag handles of the document stand for. -/
  handles : List (String × String)

/-- An event and the state behind it. -/
abbrev Step := Except Fault (Placed × State)

namespace State

/-- The next token. -/
def peek (s : State) : Except Fault Token :=
  match s.tokens with
  | t :: _ => .ok t
  | [] => .error (s.fault.getD ⟨.expectedDocumentStart, .start, none⟩)

def skip (s : State) : State := { s with tokens := s.tokens.drop 1 }

/-- Returns to the part that follows. -/
def leave (s : State) : State :=
  { s with expect := s.outer.headD .nothing, outer := s.outer.drop 1 }

private def enter (s : State) (following : Expect) : State :=
  { s with outer := following :: s.outer }

/-- A node without content. -/
def emptyScalar (s : State) (expect : Expect) (mark : Mark) : Step :=
  .ok ((.scalar .none "" .plain, mark), { s with expect := expect })

private def broken (s : State) (context : Context) (t : Token) (cause : Cause) : Step :=
  .error ⟨cause, t.start, some (context, s.marks.headD .start)⟩

/-- The end of a collection. -/
def close (s : State) (event : Event) (t : Token) : Step :=
  .ok ((event, t.start), { s.leave.skip with marks := s.marks.drop 1 })

/-! ## Nodes -/

/-- Anchor and tag of a node, each with where it stands; either may come first. -/
def readProperties (s : State) : Except Fault (Option String × Option (String × String × Mark) ×
    State) := do
  let t ← s.peek
  match t.kind with
  | .anchor a =>
    let s := s.skip
    let t ← s.peek
    match t.kind with
    | .tag h x => .ok (some a, some (h, x, t.start), s.skip)
    | _ => .ok (some a, none, s)
  | .tag h x =>
    let s := s.skip
    let next ← s.peek
    match next.kind with
    | .anchor a => .ok (some a, some (h, x, t.start), s.skip)
    | _ => .ok (none, some (h, x, t.start), s)
  | _ => .ok (none, none, s)

/-- The full tag for a handle and a suffix. -/
def resolveTag (s : State) (start : Mark) (handle suffix : String) (mark : Mark) :
    Except Fault String :=
  if handle.isEmpty then .ok suffix
  else
    match s.handles.find? (·.1 == handle) with
    | some (_, replacement) => .ok (replacement ++ suffix)
    | none => .error ⟨.undefinedTagHandle, mark, some (.node, start)⟩

/-- Reads a node; block collections only in block context, and a sequence without indentation of
its own only where a mapping allows it. -/
def readNode (s : State) (block indentless : Bool) : Step := do
  let first ← s.peek
  match first.kind with
  | .alias name => .ok ((.alias name, first.start), s.leave.skip)
  | _ =>
    let start := first.start
    let (anchor, tag, s) ← s.readProperties
    let tag ← match tag with
      | none => pure none
      | some (h, x, m) => (s.resolveTag start h x m).map some
    let properties : Properties := ⟨anchor, tag⟩
    let t ← s.peek
    match t.kind with
    | .blockEntry =>
      if indentless then
        .ok ((.sequenceStart properties, start), { s with expect := .indentlessEntry })
      else absent s properties start t
    | .scalar text style => .ok ((.scalar properties text style, start), s.leave.skip)
    | .flowSequenceStart =>
      .ok ((.sequenceStart properties, start), { s with expect := .flowEntry true })
    | .flowMappingStart =>
      .ok ((.mappingStart properties, start), { s with expect := .flowKey true })
    | .blockSequenceStart =>
      if block then
        .ok ((.sequenceStart properties, start), { s with expect := .sequenceEntry true })
      else absent s properties start t
    | .blockMappingStart =>
      if block then .ok ((.mappingStart properties, start), { s with expect := .mappingKey true })
      else absent s properties start t
    | _ => absent s properties start t
where
  /-- A node with properties may lack content. -/
  absent (s : State) (p : Properties) (start : Mark) (t : Token) : Step :=
    if p.anchor.isSome || p.tag.isSome then .ok ((.scalar p "" .plain, start), s.leave)
    else .error ⟨.expectedNode, t.start, some (if block then .blockNode else .flowNode, start)⟩

/-- Reads a node, with what follows it; but if one of the `ends` comes next, the node is empty. -/
def nodeOr (s : State) (ends : TokenKind → Bool) (following : Expect) (block indentless : Bool)
    (mark : Mark) : Step := do
  let t ← s.peek
  if ends t.kind then s.emptyScalar following mark
  else (s.enter following).readNode block indentless

/-! ## Documents -/

/-- The tag handles of every document. -/
def defaultHandles : List (String × String) := [("!", "!"), ("!!", "tag:yaml.org,2002:")]

/-- Reads the directives of a document. -/
def readDirectives : Nat → Bool → List (String × String) → State → Except Fault State
  | 0, _, _, s => .ok s
  | fuel + 1, versionSeen, handles, s => do
    let t ← s.peek
    match t.kind with
    | .versionDirective major minor =>
      if versionSeen then .error ⟨.duplicateVersion, t.start, none⟩
      else if major != 1 || (minor != 1 && minor != 2) then
        .error ⟨.incompatibleVersion, t.start, none⟩
      else readDirectives fuel true handles s.skip
    | .tagDirective handle replacement =>
      if handles.any (·.1 == handle) then .error ⟨.duplicateTagDirective, t.start, none⟩
      else readDirectives fuel versionSeen (handles ++ [(handle, replacement)]) s.skip
    | _ => .ok { s with handles := handles ++ defaultHandles }

private def isDirective : TokenKind → Bool
  | .versionDirective _ _ => true
  | .tagDirective _ _ => true
  | _ => false

def readDocumentStart (s : State) (implicit : Bool) : Step := do
  let s := if implicit then s
    else { s with tokens := s.tokens.dropWhile fun t => t.kind = .documentEnd }
  let t ← s.peek
  if t.kind = .streamEnd then .ok ((.streamEnd, t.start), { s.skip with expect := .nothing })
  else if implicit && !isDirective t.kind && t.kind ≠ .documentStart then
    .ok ((.documentStart, t.start),
      { s.enter .documentEnd with expect := .blockNode, handles := defaultHandles })
  else
    let start := t.start
    let s ← readDirectives (s.tokens.length + 1) false [] s
    let t ← s.peek
    if t.kind = .documentStart then
      .ok ((.documentStart, start), { (s.enter .documentEnd).skip with expect := .documentContent })
    else .error ⟨.expectedDocumentStart, t.start, none⟩

def readDocumentContent (s : State) : Step := do
  let t ← s.peek
  if isDirective t.kind || t.kind = .documentStart || t.kind = .documentEnd || t.kind = .streamEnd
  then s.leave.emptyScalar (s.outer.headD .nothing) t.start
  else s.readNode true false

def readDocumentEnd (s : State) : Step := do
  let t ← s.peek
  let s := if t.kind = .documentEnd then s.skip else s
  .ok ((.documentEnd, t.start), { s with expect := .documentStart false, handles := [] })

/-! ## Block collections -/

def readSequenceEntry (s : State) (first : Bool) : Step := do
  let s ← if first then do
      let t ← s.peek
      pure { s.skip with marks := t.start :: s.marks }
    else pure s
  let t ← s.peek
  match t.kind with
  | .blockEntry =>
    s.skip.nodeOr (fun k => k = .blockEntry || k = .blockEnd) (.sequenceEntry false) true false
      t.stop
  | .blockEnd => s.close .sequenceEnd t
  | _ => s.broken .blockCollection t .expectedEntry

def readIndentlessEntry (s : State) : Step := do
  let t ← s.peek
  match t.kind with
  | .blockEntry =>
    s.skip.nodeOr (fun k => k = .blockEntry || k = .key || k = .value || k = .blockEnd)
      .indentlessEntry true false t.stop
  | _ => .ok ((.sequenceEnd, t.start), s.leave)

private def endsMappingNode (k : TokenKind) : Bool := k = .key || k = .value || k = .blockEnd

def readMappingKey (s : State) (first : Bool) : Step := do
  let s ← if first then do
      let t ← s.peek
      pure { s.skip with marks := t.start :: s.marks }
    else pure s
  let t ← s.peek
  match t.kind with
  | .key => s.skip.nodeOr endsMappingNode .mappingValue true true t.stop
  | .blockEnd => s.close .mappingEnd t
  | _ => s.broken .blockMapping t .expectedKey

def readMappingValue (s : State) : Step := do
  let t ← s.peek
  match t.kind with
  | .value => s.skip.nodeOr endsMappingNode (.mappingKey false) true true t.stop
  | _ => s.emptyScalar (.mappingKey false) t.start

/-! ## Flow collections -/

/-- Opens the collection, or passes the comma between two entries. -/
def nextFlow (s : State) (first : Bool) (closing : TokenKind) (context : Context) (cause : Cause) :
    Except Fault State := do
  if first then
    let t ← s.peek
    .ok { s.skip with marks := t.start :: s.marks }
  else
    let t ← s.peek
    if t.kind = closing then .ok s
    else if t.kind = .flowEntry then .ok s.skip
    else .error ⟨cause, t.start, some (context, s.marks.headD .start)⟩

def readFlowEntry (s : State) (first : Bool) : Step := do
  let s ← s.nextFlow first .flowSequenceEnd .flowSequence .expectedSequenceEnd
  let t ← s.peek
  match t.kind with
  | .flowSequenceEnd => s.close .sequenceEnd t
  | .key => .ok ((.mappingStart .none, t.start), { s.skip with expect := .flowPairKey })
  | _ => (s.enter (.flowEntry false)).readNode false false

def readFlowPairKey (s : State) : Step := do
  let t ← s.peek
  if t.kind = .value || t.kind = .flowEntry || t.kind = .flowSequenceEnd then
    s.skip.emptyScalar .flowPairValue t.stop
  else (s.enter .flowPairValue).readNode false false

def readFlowPairValue (s : State) : Step := do
  let t ← s.peek
  match t.kind with
  | .value =>
    let s := s.skip
    let t ← s.peek
    s.nodeOr (fun k => k = .flowEntry || k = .flowSequenceEnd) .flowPairEnd false false t.start
  | _ => s.emptyScalar .flowPairEnd t.start

def readFlowPairEnd (s : State) : Step := do
  let t ← s.peek
  .ok ((.mappingEnd, t.start), { s with expect := .flowEntry false })

def readFlowKey (s : State) (first : Bool) : Step := do
  let s ← s.nextFlow first .flowMappingEnd .flowMapping .expectedMappingEnd
  let t ← s.peek
  match t.kind with
  | .flowMappingEnd => s.close .mappingEnd t
  | .key =>
    let s := s.skip
    let t ← s.peek
    s.nodeOr (fun k => k = .value || k = .flowEntry || k = .flowMappingEnd) (.flowValue false)
      false false t.start
  | _ => (s.enter (.flowValue true)).readNode false false

def readFlowValue (s : State) (empty : Bool) : Step := do
  let t ← s.peek
  if empty then s.emptyScalar (.flowKey false) t.start
  else
    match t.kind with
    | .value =>
      let s := s.skip
      let t ← s.peek
      s.nodeOr (fun k => k = .flowEntry || k = .flowMappingEnd) (.flowKey false) false false t.start
    | _ => s.emptyScalar (.flowKey false) t.start

/-- Reads the next event. -/
def step (s : State) : Step :=
  match s.expect with
  | .documentStart implicit => s.readDocumentStart implicit
  | .documentContent => s.readDocumentContent
  | .documentEnd => s.readDocumentEnd
  | .blockNode => s.readNode true false
  | .sequenceEntry first => s.readSequenceEntry first
  | .indentlessEntry => s.readIndentlessEntry
  | .mappingKey first => s.readMappingKey first
  | .mappingValue => s.readMappingValue
  | .flowEntry first => s.readFlowEntry first
  | .flowPairKey => s.readFlowPairKey
  | .flowPairValue => s.readFlowPairValue
  | .flowPairEnd => s.readFlowPairEnd
  | .flowKey first => s.readFlowKey first
  | .flowValue empty => s.readFlowValue empty
  | .nothing => .error ⟨.expectedDocumentStart, .start, none⟩

/-- The events up to the end of the text or the first fault. -/
def run : Nat → State → List Placed → List Placed × Option Fault
  | 0, _, acc => (acc.reverse, none)
  | fuel + 1, s, acc =>
    match s.step with
    | .error f => (acc.reverse, some f)
    | .ok ((.streamEnd, m), _) => (((.streamEnd, m) :: acc).reverse, none)
    | .ok (e, s) => run fuel s (e :: acc)

end State

/-- The events of a text up to its end or the first fault. -/
def events (text : String) : List Placed × Option Fault :=
  let (ts, fault) := tokens text
  State.run (4 * ts.length + 16) ⟨ts, fault, .documentStart true, [], [], []⟩ []

end MessageContract.Yaml
