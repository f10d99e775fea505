import MessageContract.Regex.Automaton

/-!
# Room

A pattern is refused if its automaton takes too much room. Automata read bytes of UTF-8, forward
and, in a second automaton, backward; both count. A state takes 32 units, a byte range 8 and a
choice 4.
-/

namespace MessageContract.Regex

/-- A range of bytes. -/
abbrev ByteRange := Nat × Nat

namespace Utf8Ranges

/-- The largest code point that takes a number of bytes, or fewer. -/
private def ends : List Nat := [0x7F, 0x7FF, 0xFFFF]

/-- Cuts a span where the number of bytes changes. -/
private def byLength (s : Span) : List Span :=
  ends.foldr (fun last cut => cut.flatMap fun s =>
    if s.low ≤ last && last < s.high then [⟨s.low, last⟩, ⟨last + 1, s.high⟩] else [s]) [s]

/-- Cuts a span so that below a prefix of the bytes all bytes are possible, or a single one is. -/
private def byPrefix : List Nat → Span → List Span
  | [], s => [s]
  | bits :: more, s =>
    let size := Nat.pow 2 bits
    if s.low / size == s.high / size then byPrefix more s
    else
      let first := if s.low % size == 0 then [] else
        byPrefix more ⟨s.low, s.low / size * size + size - 1⟩
      let last := if s.high % size == size - 1 then [] else
        byPrefix more ⟨s.high / size * size, s.high⟩
      let low := (s.low + size - 1) / size * size
      let high := (s.high + 1) / size * size
      first ++ (if low < high then [⟨low, high - 1⟩] else []) ++ last

/-- The bytes of a code point. -/
private def bytes (n : Nat) : List Nat :=
  if n ≤ 0x7F then [n]
  else if n ≤ 0x7FF then [0xC0 + n / 64, 0x80 + n % 64]
  else if n ≤ 0xFFFF then [0xE0 + n / 4096, 0x80 + n / 64 % 64, 0x80 + n % 64]
  else [0xF0 + n / 262144, 0x80 + n / 4096 % 64, 0x80 + n / 64 % 64, 0x80 + n % 64]

/-- The ranges of bytes, one after another, that make up the characters of a span. -/
def ofSpan (s : Span) : List (List ByteRange) :=
  (byLength s).flatMap fun s =>
    if s.high ≤ 0x7F then [[(s.low, s.high)]]
    else (byPrefix [18, 12, 6] s).map fun s => (bytes s.low).zip (bytes s.high)

end Utf8Ranges

/-! ## Sets -/

/-- What may follow in a forward automaton: ranges of bytes, each with what follows it. -/
inductive ByteTree
  | node (edges : List (ByteRange × ByteTree))
  deriving BEq

/-- The sequences by their first range, those that follow each other and share it together. -/
private def grouped : List (List ByteRange) → List (ByteRange × List (List ByteRange))
  | [] => []
  | [] :: rest => grouped rest
  | (r :: rs) :: rest =>
    match grouped rest with
    | (q, more) :: others =>
      if q == r then (q, rs :: more) :: others else (r, [rs]) :: (q, more) :: others
    | [] => [(r, [rs])]

private def treeOf : Nat → List (List ByteRange) → ByteTree
  | 0, _ => .node []
  | fuel + 1, rss => .node ((grouped rss).map fun (r, rest) => (r, treeOf fuel rest))

mutual

/-- Adds the nodes of a tree that are not known yet; ends of sequences are none. -/
private def addNodes (known : List ByteTree) : ByteTree → List ByteTree
  | .node [] => known
  | .node edges =>
    let known := addEdges known edges
    if known.contains (.node edges) then known else .node edges :: known

private def addEdges (known : List ByteTree) : List (ByteRange × ByteTree) → List ByteTree
  | [] => known
  | (_, t) :: rest => addEdges (addNodes known t) rest

end

private def edgeCount : ByteTree → Nat
  | .node edges => edges.length

/-- The number of ranges that a sequence does not share with the one before it. -/
private def unshared : List ByteRange → List ByteRange → Nat
  | r :: rs, q :: qs => if r == q then unshared rs qs else rs.length + 1
  | rs, _ => rs.length

private def prefixCount : List ByteRange → List (List ByteRange) → Nat
  | _, [] => 0
  | before, rs :: rest => unshared rs before + prefixCount rs rest

private def sequences (s : CharSet) : List (List ByteRange) :=
  s.spans.toList.flatMap Utf8Ranges.ofSpan

/-- The room of the states for a set. -/
private def setRoom (forward : Bool) (s : CharSet) : Nat :=
  match s.spans.toList with
  | [] => 32
  | [⟨low, high⟩] =>
    if low == high then 32 * (Char.ofNat low).utf8Size
    else if high < 128 then 72 else wide
  | spans => if spans.all (·.high < 128) then 64 + 8 * spans.length else wide
where
  wide : Nat :=
    let rss := sequences s
    if forward then
      (addNodes [] (treeOf 4 rss)).foldl (fun n t => n + 32 + 8 * edgeCount t) 32
    else 64 + 4 * rss.length + 32 * prefixCount [] rss

/-- No less than the room of the states for a set. -/
private def setRoomBound (s : CharSet) : Nat := 64 + 2080 * s.spans.size

/-! ## Patterns -/

/-- The room of two ways to go on. -/
private def choiceRoom : Nat := 40

mutual

/-- The room of the states for a pattern, given that of sets and of the notes of groups. -/
private def roomOf (ofSet : CharSet → Nat) (ofGroup : Nat) : Regex → Nat
  | .seq rs => roomOfAll ofSet ofGroup rs
  | .alt rs => 64 + 4 * rs.length + roomOfAll ofSet ofGroup rs
  | .repeat r least most _ =>
    let room := roomOf ofSet ofGroup r
    match most with
    | some most =>
      let optional := if least < most then 32 + (most - least) * (choiceRoom + room) else 0
      least * room + optional
    | none =>
      if 0 < least then least * room + choiceRoom
      else if 0 < r.minSize then choiceRoom + room
      else 2 * choiceRoom + 32 + room
  | .group _ _ r => ofGroup + roomOf ofSet ofGroup r
  | r =>
    match r.charSet? with
    | some s => ofSet s
    | none => 32

private def roomOfAll (ofSet : CharSet → Nat) (ofGroup : Nat) : List Regex → Nat
  | [] => 0
  | r :: rs => roomOf ofSet ofGroup r + roomOfAll ofSet ofGroup rs

end

/-- The room that an automaton may take. -/
def roomLimit : Nat := 10485760

/-- The room of what is there in every automaton. -/
private def frame : Nat := 168

mutual

/-- Whether every repetition has bounds in order that are not too large. -/
private def hasGoodCounts : Regex → Bool
  | .seq rs => haveGoodCounts rs
  | .alt rs => haveGoodCounts rs
  | .repeat r least most _ =>
    hasGoodCounts r && least < Nat.pow 2 32 &&
      most.all fun most => least ≤ most && most < Nat.pow 2 32
  | .group _ _ r => hasGoodCounts r
  | _ => true

private def haveGoodCounts : List Regex → Bool
  | [] => true
  | r :: rs => hasGoodCounts r && haveGoodCounts rs

end

/-- Whether an automaton can be made for a sequence of patterns. -/
def haveAutomaton (rs : List Regex) : Bool :=
  haveGoodCounts rs &&
    (roomOfAll setRoomBound 64 rs + frame ≤ roomLimit ||
      (roomOfAll (setRoom true) 64 rs + frame ≤ roomLimit &&
        roomOfAll (setRoom false) 0 rs + frame ≤ roomLimit))

end MessageContract.Regex
