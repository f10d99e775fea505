/-!
# Doubles

A double is its 64 bits. A finite one stands for `±m · 2^q` with natural `m` and integer `q`;
comparison, product and quotient are computed from that in exact integer arithmetic and rounded to
nearest, ties to even.
-/

namespace MessageContract

/-- A binary64 number, given by its bits. -/
structure Double where
  bits : UInt64
  deriving DecidableEq, Repr

namespace Double

/-- The sign bit. -/
def negative (d : Double) : Bool := d.bits >>> 63 == 1

/-- The exponent field. -/
def exponentField (d : Double) : Nat := (d.bits.toNat >>> 52) % 2048

/-- The fraction field. -/
def fractionField (d : Double) : Nat := d.bits.toNat % Nat.pow 2 52

def isNaN (d : Double) : Bool := d.exponentField == 2047 && d.fractionField != 0
def isInfinite (d : Double) : Bool := d.exponentField == 2047 && d.fractionField == 0
def isFinite (d : Double) : Bool := d.exponentField != 2047

/-- The natural factor of a finite double. -/
def significand (d : Double) : Nat :=
  if d.exponentField == 0 then d.fractionField else d.fractionField + Nat.pow 2 52

/-- The power of two of a finite double. -/
def exponent (d : Double) : Int :=
  if d.exponentField == 0 then -1074 else (d.exponentField : Int) - 1075

def isZero (d : Double) : Bool := d.isFinite && d.significand == 0

/-- The double with the given sign and the bits `magnitude` below it. -/
def ofMagnitude (negative : Bool) (magnitude : Nat) : Double :=
  ⟨UInt64.ofNat (magnitude + if negative then Nat.pow 2 63 else 0)⟩

def zero (negative : Bool) : Double := ofMagnitude negative 0
def infinity (negative : Bool) : Double := ofMagnitude negative (2047 * Nat.pow 2 52)

/-- Not a number, with a positive sign. -/
def nan : Double := ofMagnitude false (2047 * Nat.pow 2 52 + Nat.pow 2 51)

/-- `num / den` as a numerator and a denominator, scaled by `2 ^ (-q)`. -/
def scaled (num den : Nat) (q : Int) : Nat × Nat :=
  (num * Nat.pow 2 (-q).toNat, den * Nat.pow 2 q.toNat)

/-- The nearest integer to `num / den`, the even one of two. -/
def nearest (num den : Nat) : Nat :=
  let quotient := num / den
  let twice := 2 * (num % den)
  if twice < den then quotient
  else if den < twice then quotient + 1
  else quotient + quotient % 2

/-- The double nearest to `±num / den`, where `den` is positive. -/
def round (negative : Bool) (num den : Nat) : Double :=
  if num == 0 then zero negative else
  let guess : Int := (num.log2 : Int) - (den.log2 : Int) - 52
  let (n, d) := scaled num den guess
  let fitted := if n / d < Nat.pow 2 52 then guess - 1 else guess
  let q := max fitted (-1074)
  let (n, d) := scaled num den q
  let m := nearest n d
  let (m, q) := if m == Nat.pow 2 53 then (Nat.pow 2 52, q + 1) else (m, q)
  if 971 < q then infinity negative
  else if m < Nat.pow 2 52 then ofMagnitude negative m
  else ofMagnitude negative ((q + 1075).toNat * Nat.pow 2 52 + (m - Nat.pow 2 52))

/-- The double nearest to an integer. -/
def ofInt (n : Int) : Double := round (n < 0) n.natAbs 1

/-- The double nearest to `±digits · 10 ^ exponent`. -/
def ofDecimal (negative : Bool) (digits : Nat) (exponent : Int) : Double :=
  if digits == 0 then zero negative
  else
    let size : Int := (digits.log2 : Int) * 30103 / 100000 + exponent
    if 400 < size then infinity negative
    else if size < -400 then zero negative
    else round negative (digits * Nat.pow 10 exponent.toNat) (Nat.pow 10 (-exponent).toNat)

/-- `±num / den` of a finite double. -/
def ratio (d : Double) : Nat × Nat :=
  (d.significand * Nat.pow 2 d.exponent.toNat, Nat.pow 2 (-d.exponent).toNat)

/-- The product of two finite doubles. -/
def mul (a b : Double) : Double :=
  let (an, ad) := a.ratio
  let (bn, bd) := b.ratio
  round (a.negative != b.negative) (an * bn) (ad * bd)

/-- The quotient of two finite doubles; division by zero gives an infinity. -/
def div (a b : Double) : Double :=
  let sign := a.negative != b.negative
  if b.isZero then (if a.isZero then nan else infinity sign)
  else
    let (an, ad) := a.ratio
    let (bn, bd) := b.ratio
    round sign (an * bd) (ad * bn)

/-- The opposite number. -/
def neg (d : Double) : Double := ⟨d.bits ^^^ 0x8000000000000000⟩

/-- The value of a finite double as a numerator over a positive denominator. -/
def value (d : Double) : Int × Nat :=
  let (n, den) := d.ratio
  (if d.negative then -(n : Int) else n, den)

/-- A finite double without fractional part. -/
def isIntegral (d : Double) : Bool :=
  let (n, den) := d.ratio
  n % den == 0

/-- The integer that a finite double stands for, when it is one. -/
def toInt? (d : Double) : Option Int :=
  if d.isFinite && d.isIntegral then
    let (n, den) := d.value
    some (n / den)
  else none

end Double
end MessageContract
