import MessageContract.Decimal.Double

/-!
# Shortest decimal text of a double

The digits are the fewest that read back as the same double and, of those, the nearest to its
value. A `Layout` says how digits and exponent are written.
-/

namespace MessageContract

/-- A decimal number `digits · 10 ^ exponent`. -/
structure Decimal where
  digits : Nat
  exponent : Int

namespace Double

/-- Whether `c · 10 ^ e` lies between `lo` and `hi`, both counted in units of `2 ^ u`. -/
def withinUnits (c : Nat) (e : Int) (lo hi : Nat) (u : Int) (closed : Bool) : Bool :=
  let scale (n : Nat) : Nat := n * Nat.pow 2 u.toNat * Nat.pow 10 (-e).toNat
  let point := c * Nat.pow 10 e.toNat * Nat.pow 2 (-u).toNat
  if closed then scale lo ≤ point && point ≤ scale hi
  else scale lo < point && point < scale hi

/-- The grid point of step `10 ^ e` that reads back as the double and is nearest to its value
`n · 2 ^ u`, among those between `lo` and `hi`. -/
def gridPoint? (n lo hi : Nat) (u e : Int) (closed : Bool) : Option Nat :=
  let num := n * Nat.pow 2 u.toNat * Nat.pow 10 (-e).toNat
  let den := Nat.pow 2 (-u).toNat * Nat.pow 10 e.toNat
  let below := num / den
  let rest := 2 * (num % den)
  let upFirst := den < rest || (rest == den && below % 2 == 1)
  let candidates := if upFirst then [below + 1, below] else [below, below + 1]
  candidates.find? fun c => withinUnits c e lo hi u closed

/-- The smallest `k` near `guess` with `n · 2 ^ u < 10 ^ k`. -/
def decimalSize (n : Nat) (u : Int) : Int :=
  let guess : Int := ((n.log2 : Int) + u) * 30103 / 100000
  let below (k : Int) : Bool :=
    n * Nat.pow 2 u.toNat * Nat.pow 10 (-k).toNat < Nat.pow 2 (-u).toNat * Nat.pow 10 k.toNat
  ([guess - 1, guess, guess + 1, guess + 2].find? below).getD (guess + 3)

/-- Drops the zeros at the end of the digits. -/
def dropZeros : Nat → Decimal → Decimal
  | 0, d => d
  | fuel + 1, d =>
    if d.digits != 0 && d.digits % 10 == 0 then dropZeros fuel ⟨d.digits / 10, d.exponent + 1⟩
    else d

/-- The shortest decimal that reads back as the absolute value of a finite double. -/
def shortest (d : Double) : Decimal :=
  if d.significand == 0 then ⟨0, 0⟩ else
  let m := d.significand
  let n := 4 * m
  let u := d.exponent - 2
  let atPower := m == Nat.pow 2 52 && d.exponentField > 1
  let lo := if atPower then n - 1 else n - 2
  let hi := n + 2
  let size := decimalSize n u
  let found := (List.range 17).findSome? fun (i : Nat) =>
    let e : Int := size - (i + 1 : Nat)
    (gridPoint? n lo hi u e (m % 2 == 0)).map fun c => Decimal.mk c e
  dropZeros 20 (found.getD ⟨0, 0⟩)

end Double

/-- How a decimal is written out. -/
structure Layout where
  /-- Numbers `0.d…` with at most this many zeros after the point are written positionally. -/
  zerosBefore : Nat
  /-- Numbers with at most this many digits before the point are written positionally. -/
  digitsBefore : Nat
  /-- Whether an integral number ends in `.0`. -/
  pointZero : Bool
  /-- Whether a positive exponent has a sign. -/
  plusSign : Bool

namespace Layout

def zeros (n : Nat) : String := String.ofList (List.replicate n '0')

/-- The text of a decimal. -/
def write (l : Layout) (d : Decimal) : String :=
  let digits := toString d.digits
  let count := digits.length
  let before : Int := count + d.exponent
  if d.digits == 0 then (if l.pointZero then "0.0" else "0")
  else if 0 < before && before ≤ l.digitsBefore then
    if 0 ≤ d.exponent then digits ++ zeros d.exponent.toNat ++ (if l.pointZero then ".0" else "")
    else
      let cut := before.toNat
      String.ofList (digits.toList.take cut) ++ "." ++ String.ofList (digits.toList.drop cut)
  else if before ≤ 0 && -before ≤ l.zerosBefore then
    "0." ++ zeros (-before).toNat ++ digits
  else
    let tail := digits.toList.drop 1
    let mantissa := String.ofList (digits.toList.take 1) ++
      (if tail.isEmpty then "" else "." ++ String.ofList tail)
    let exponent := before - 1
    mantissa ++ "e" ++ (if exponent < 0 then "-" else if l.plusSign then "+" else "") ++
      toString exponent.natAbs

end Layout

/-- The text of a finite double. -/
def Double.write (l : Layout) (d : Double) : String :=
  (if d.negative then "-" else "") ++ l.write d.shortest

end MessageContract
