import MessageContract.Unicode.CharSet

/-!
# Shifts

Characters that go to other characters in step: each at the same distance from its first as its
image from the first image.
-/

namespace MessageContract

/-- The characters `low`, `low + step`, … up to `high`; the first goes to `target`. -/
structure Shift where
  low : Nat
  high : Nat
  step : Nat
  target : Nat
  deriving DecidableEq, Repr

namespace Shift

/-- The shift that a word stands for: `41>61`, `41-5a>61` or `100-12e/2>101`. -/
def ofWord (word : List Char) : Shift :=
  let source := word.takeWhile (· != '>')
  let target := Span.number ((word.dropWhile (· != '>')).drop 1)
  let low := Span.number (source.takeWhile (· != '-'))
  match (source.dropWhile (· != '-')).drop 1 with
  | [] => ⟨low, low, 1, target⟩
  | rest =>
    ⟨low, Span.number (rest.takeWhile (· != '/')), if rest.contains '/' then 2 else 1, target⟩

/-- The shifts that rows of words describe. -/
def ofRows (rows : List String) : List Shift :=
  rows.flatMap fun row => (Span.words row.toList).map ofWord

/-- Where a code point goes, if the shift says so. -/
def image? (s : Shift) (n : Nat) : Option Nat :=
  if s.low ≤ n && n ≤ s.high && (n - s.low) % s.step == 0 then some (s.target + (n - s.low))
  else none

/-- The shift back. -/
def inverse (s : Shift) : Shift := ⟨s.target, s.target + (s.high - s.low), s.step, s.low⟩

private def points (low high : Nat) : List Nat := (List.range (high + 1 - low)).map (low + ·)

private def imagesOf (s : Shift) (p : Span) : List Span :=
  let low := max p.low s.low
  let high := min p.high s.high
  if high < low then []
  else if s.step == 1 then [⟨s.target + (low - s.low), s.target + (high - s.low)⟩]
  else (points low high).filterMap fun n => (s.image? n).map fun m => ⟨m, m⟩

/-- Where the characters of a set go. -/
def images (s : Shift) (a : CharSet) : List Span := a.spans.toList.flatMap s.imagesOf

/-- The characters that go into a set. -/
def preimages (s : Shift) (a : CharSet) : List Span := s.inverse.images a

end Shift
end MessageContract
