/-!
# Sets of characters

A set of characters as spans of code points in ascending order, with gaps between them. Code points
for halves of pairs stand for no character and belong to no set.
-/

namespace MessageContract

/-- Code points from `low` to `high`. -/
structure Span where
  low : Nat
  high : Nat
  deriving DecidableEq, Repr

namespace Span

/-- The last code point. -/
def top : Nat := 0x10FFFF

/-- The parts of a span that stand for characters. -/
def parts (s : Span) : List Span :=
  [(⟨s.low, min s.high 0xD7FF⟩ : Span), ⟨max s.low 0xE000, min s.high top⟩].filter
    fun p => p.low ≤ p.high

/-- Joins spans that touch; they are given in ascending order. -/
def merge : List Span → List Span
  | [] => []
  | [s] => [s]
  | s :: t :: rest =>
    if t.low ≤ s.high + 1 then merge (⟨s.low, max s.high t.high⟩ :: rest)
    else s :: merge (t :: rest)
  termination_by ss => ss.length

/-- What lies between spans, from a code point on. -/
def gaps : Nat → List Span → List Span
  | next, [] => [⟨next, top⟩]
  | next, s :: rest => if next < s.low then ⟨next, s.low - 1⟩ :: gaps (s.high + 1) rest
    else gaps (s.high + 1) rest

/-! ## Rows -/

/-- The value of digits of base sixteen in lower case. -/
def number (cs : List Char) : Nat :=
  cs.foldl (fun n c => n * 16 + (if c.isDigit then c.toNat - 48 else c.toNat - 87)) 0

/-- The words between blanks. -/
def words : List Char → List (List Char)
  | [] => [[]]
  | c :: rest =>
    if c == ' ' then [] :: words rest
    else
      match words rest with
      | [] => [[c]]
      | w :: ws => (c :: w) :: ws

/-- The spans that a word stands for: `41`, `41-5a`, or `100-12e/2` for every second number. -/
def ofWord (word : List Char) : List Span :=
  let low := number (word.takeWhile (· != '-'))
  match (word.dropWhile (· != '-')).drop 1 with
  | [] => [⟨low, low⟩]
  | rest =>
    let high := number (rest.takeWhile (· != '/'))
    if rest.contains '/' then
      (List.range ((high - low) / 2 + 1)).map fun i => ⟨low + 2 * i, low + 2 * i⟩
    else [⟨low, high⟩]

end Span

/-- Characters as spans in ascending order, apart from each other. -/
structure CharSet where
  spans : Array Span
  deriving DecidableEq, Repr, Inhabited

namespace CharSet

/-- The characters of any spans. -/
def ofSpans (ss : List Span) : CharSet :=
  ⟨(Span.merge ((ss.flatMap Span.parts).mergeSort fun a b => a.low ≤ b.low)).toArray⟩

/-- The set that rows of words describe. -/
def ofRows (rows : List String) : CharSet :=
  ofSpans (rows.flatMap fun row => (Span.words row.toList).flatMap Span.ofWord)

def empty : CharSet := ⟨#[]⟩

def range (low high : Nat) : CharSet := ofSpans [⟨low, high⟩]

def char (c : Char) : CharSet := ⟨#[⟨c.toNat, c.toNat⟩]⟩

/-- All characters. -/
def all : CharSet := range 0 Span.top

def union (a b : CharSet) : CharSet := ofSpans (a.spans.toList ++ b.spans.toList)

def complement (a : CharSet) : CharSet := ofSpans (Span.gaps 0 a.spans.toList)

def inter (a b : CharSet) : CharSet := (a.complement.union b.complement).complement

def diff (a b : CharSet) : CharSet := a.inter b.complement

instance : Union CharSet := ⟨union⟩
instance : Inter CharSet := ⟨inter⟩
instance : SDiff CharSet := ⟨diff⟩

/-- The characters in one of two sets and not in the other. -/
def symmDiff (a b : CharSet) : CharSet := (a ∪ b) \ (a ∩ b)

def isEmpty (a : CharSet) : Bool := a.spans.isEmpty

/-- Whether a code point lies in one of the spans from `lo` up to `hi`. -/
def search (spans : Array Span) (n lo hi : Nat) : Bool :=
  if lo < hi then
    let mid := (lo + hi) / 2
    match spans[mid]? with
    | some s =>
      if n < s.low then search spans n lo mid
      else if s.high < n then search spans n (mid + 1) hi
      else true
    | none => false
  else false
  termination_by hi - lo

/-- Whether a set holds a code point. -/
def holdsCode (a : CharSet) (n : Nat) : Bool := search a.spans n 0 a.spans.size

/-- Whether a set holds a character. -/
def holds (a : CharSet) (c : Char) : Bool := a.holdsCode c.toNat

end CharSet
end MessageContract
