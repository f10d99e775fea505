/-!
# Punycode

A text in ASCII letters, digits and hyphens: first its ASCII characters, then the places and code
points of all others, as differences from each to the next. A difference is a number with a changing
base, which adapts to how large the differences are.
-/

namespace MessageContract.Punycode

/-! ## Numbers -/

/-- Numbers do not outgrow this. -/
def bound : Nat := Nat.pow 2 32

/-- The digit before which a number can end. -/
def threshold (bias k : Nat) : Nat :=
  if k ≤ bias then 1 else if bias + 26 ≤ k then 26 else k - bias

private def shrink (delta k : Nat) : Nat × Nat :=
  if 455 < delta then shrink (delta / 35) (k + 36) else (delta, k)
  termination_by delta

/-- The bias for the number after a difference. -/
def adapt (delta points : Nat) (first : Bool) : Nat :=
  let delta := if first then delta / 700 else delta / 2
  let (d, k) := shrink (delta + delta / points) 0
  k + 36 * d / (d + 38)

def digit (n : Nat) : Char := if n < 26 then Char.ofNat (97 + n) else Char.ofNat (22 + n)

def digit? (c : Char) : Option Nat :=
  if c.isLower then some (c.toNat - 97)
  else if c.isUpper then some (c.toNat - 65)
  else if c.isDigit then some (c.toNat - 22)
  else none

/-- The digits of a number. -/
def writeNumber (bias k n : Nat) : List Char :=
  let t := threshold bias k
  if n < t then [digit n]
  else digit (t + (n - t) % (36 - t)) :: writeNumber bias (k + 36) ((n - t) / (36 - t))
  termination_by n
  decreasing_by
    have ht : 1 ≤ threshold bias k := by unfold threshold; split <;> (try split) <;> omega
    have := Nat.div_le_self (n - threshold bias k) (36 - threshold bias k)
    omega

/-- Adds a number to one, and what is left; `weight` is what the next digit counts for. -/
def readNumber? (bias : Nat) : Nat → Nat → Nat → List Char → Option (Nat × List Char)
  | _, _, _, [] => none
  | k, weight, n, c :: cs => do
    let d ← digit? c
    let n := n + d * weight
    let t := threshold bias k
    if bound ≤ n then none
    else if d < t then some (n, cs)
    else if bound ≤ weight * (36 - t) then none
    else readNumber? bias (k + 36) (weight * (36 - t)) n cs

/-! ## Writing -/

/-- The state of writing: the code point that comes next, the difference so far, the bias, how many
characters are written, and what is written. -/
structure Writer where
  next : Nat
  delta : Nat
  bias : Nat
  count : Nat
  out : List Char

/-- Passes by a character, or writes it if it is the next. -/
def Writer.add (basic : Nat) (w : Writer) (c : Char) : Writer :=
  if c.toNat < w.next then { w with delta := w.delta + 1 }
  else if c.toNat == w.next then
    { w with
      out := w.out ++ writeNumber w.bias 36 w.delta
      bias := adapt w.delta (w.count + 1) (w.count == basic)
      delta := 0
      count := w.count + 1 }
  else w

/-- Writes all characters with one code point. -/
def Writer.round (basic : Nat) (cs : List Char) (w : Writer) (code : Nat) : Writer :=
  let w := { w with next := code, delta := w.delta + (code - w.next) * (w.count + 1) }
  let w := cs.foldl (Writer.add basic) w
  { w with next := code + 1, delta := w.delta + 1 }

def isBasic (c : Char) : Bool := c.toNat < 128

/-- The Punycode of a text. -/
def encode (cs : List Char) : List Char :=
  let basic := cs.filter isBasic
  let codes := (((cs.filter (!isBasic ·)).map Char.toNat).mergeSort (· ≤ ·)).eraseDups
  let out := if basic.isEmpty then [] else basic ++ ['-']
  (codes.foldl (Writer.round basic.length cs) ⟨128, 0, 72, basic.length, out⟩).out

/-! ## Reading -/

/-- Puts in one character after another. -/
private def insertAll : Nat → Nat → Nat → Nat → List Char → List Char → Option (List Char)
  | 0, _, _, _, _, _ => none
  | _, _, _, _, text, [] => some text
  | fuel + 1, code, bias, i, text, cs => do
    let (n, rest) ← readNumber? bias 36 1 i cs
    let points := text.length + 1
    let code := code + n / points
    if !Nat.isValidChar code then none
    else
      let place := n % points
      let text := text.take place ++ Char.ofNat code :: text.drop place
      insertAll fuel code (adapt (n - i) points (i == 0)) (place + 1) text rest

/-- The text of Punycode. -/
def decode? (cs : List Char) : Option (List Char) :=
  let behind := (cs.reverse.takeWhile (· != '-')).reverse
  let before := cs.take (cs.length - behind.length - 1)
  if before.isEmpty then insertAll (cs.length + 1) 128 72 0 [] cs
  else if before.all isBasic then insertAll (cs.length + 1) 128 72 0 before behind
  else none

end MessageContract.Punycode
