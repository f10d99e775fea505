import MessageContract.Decimal.Shortest
import MessageContract.Json.Basic

/-!
# Numbers and equality

Numbers are compared by value: `1` and `1.0` are the same. Values are the same if their numbers are,
and objects if they have the same members in the same order. They are identical if their numbers are
written as the same kind of number, and objects if they have the same members in any order.
-/

namespace MessageContract

namespace Number

def toDouble : Number → Double
  | .int n => .ofInt n
  | .double d => d

/-- The value as a numerator over a positive denominator. -/
def value : Number → Int × Nat
  | .int n => (n, 1)
  | .double d => d.value

def lt (a b : Number) : Bool := a.value.1 * b.value.2 < b.value.1 * a.value.2

/-- Whether two integers are equal, or the doubles nearest to two numbers if one is a double. -/
def same : Number → Number → Bool
  | .int a, .int b => a == b
  | a, b =>
    let (n, d) := a.toDouble.value
    let (m, e) := b.toDouble.value
    n * e == m * d

/-- Whether a number has no fractional part. -/
def isInteger : Number → Bool
  | .int _ => true
  | .double d => d.isIntegral

/-- Whether a number is written as an integer. -/
def isWritten : Number → Bool
  | .int _ => true
  | .double _ => false

/-- The distance of neighbouring doubles above one. -/
private def isBelowEpsilon (num : Nat) (den : Nat) : Bool := num * Nat.pow 2 52 < den

/-- Whether the doubles nearest to two numbers differ by less than the distance of neighbouring
doubles above one. -/
def isClose (a b : Number) : Bool :=
  let (n, d) := a.toDouble.value
  let (m, e) := b.toDouble.value
  isBelowEpsilon (n * e - m * d).natAbs (d * e)

/-- The fraction that the shortest decimal of a double stands for. -/
private def decimalRatio (d : Double) : Nat × Nat :=
  let s := d.shortest
  (s.digits * Nat.pow 10 s.exponent.toNat, Nat.pow 10 (-s.exponent).toNat)

/-- Whether a number counts as a multiple. By an integral divisor the remainder has to be zero. By
any other divisor the quotient, a double, may exceed an integer by less than the distance of
neighbouring doubles above one; a quotient below zero always counts. -/
def isMultipleOf (n : Number) (divisor : Double) : Bool :=
  let item := n.toDouble
  if divisor.isIntegral then
    match item.toInt?, divisor.toInt? with
    | some i, some d => d != 0 && Int.tmod i d == 0
    | _, _ => false
  else
    let quotient := item.div divisor
    if quotient.isFinite then
      let (num, den) := quotient.ratio
      quotient.negative || isBelowEpsilon (num % den) den
    else
      let (a, b) := decimalRatio item
      let (c, d) := decimalRatio divisor
      (a * d) % (b * c) == 0

end Number

namespace Json

mutual

/-- Whether two values are the same. -/
def same : Json → Json → Bool
  | .null, .null => true
  | .bool a, .bool b => a == b
  | .num a, .num b => a.same b
  | .str a, .str b => a == b
  | .arr as, .arr bs => sameItems as bs
  | .obj as, .obj bs => sameMembers as bs
  | _, _ => false

def sameItems : List Json → List Json → Bool
  | [], [] => true
  | a :: as, b :: bs => same a b && sameItems as bs
  | _, _ => false

def sameMembers : List (String × Json) → List (String × Json) → Bool
  | [], [] => true
  | (k, v) :: as, (l, w) :: bs => k == l && same v w && sameMembers as bs
  | _, _ => false

end

mutual

/-- Whether two values are identical. -/
def identical : Json → Json → Bool
  | .null, .null => true
  | .bool a, .bool b => a == b
  | .num a, .num b => a == b
  | .str a, .str b => a == b
  | .arr as, .arr bs => identicalItems as bs
  | .obj as, .obj bs => as.length == bs.length && identicalMembers as bs
  | _, _ => false

def identicalItems : List Json → List Json → Bool
  | [], [] => true
  | a :: as, b :: bs => identical a b && identicalItems as bs
  | _, _ => false

/-- Whether each member has its like in the other object. -/
def identicalMembers : List (String × Json) → List (String × Json) → Bool
  | [], _ => true
  | (k, v) :: rest, bs =>
    (match Members.get? bs k with
      | some w => identical v w
      | none => false) && identicalMembers rest bs

end

/-- Whether no value is like a later one. -/
def allApart (like : Json → Json → Bool) : List Json → Bool
  | [] => true
  | v :: rest => !rest.any (like v ·) && allApart like rest

/-- Up to as many values are compared with each other. -/
def fewItems : Nat := 15

/-- Whether no value occurs twice: the same in a few values, identical in many. -/
def allDistinct (items : List Json) : Bool :=
  allApart (if items.length ≤ fewItems then same else identical) items

/-- Whether a value is a given constant. -/
def isConstant (expected v : Json) : Bool :=
  match expected, v with
  | .num a, .num b => a.isClose b
  | a, b => same a b

end Json
end MessageContract
