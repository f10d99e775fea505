/-!
# Dates, times and durations

The full dates and times of RFC 3339. A leap second stands at the end of a day in universal time.
The six characters behind `9` count as digits that go on from ten, except in a fraction.
-/

namespace MessageContract.Format

private def digit? (c : Char) : Option Nat :=
  if '0' ≤ c && c ≤ '?' then some (c.toNat - 48) else none

/-- The value of two digits. -/
def twoDigits? (a b : Char) : Option Nat := do return (← digit? a) * 10 + (← digit? b)

def isLeapYear (y : Nat) : Bool := y % 4 == 0 && (y % 100 != 0 || y % 400 == 0)

/-- The number of days in a month, zero if there is no such month. -/
def daysIn (year month : Nat) : Nat :=
  if [1, 3, 5, 7, 8, 10, 12].contains month then 31
  else if [4, 6, 9, 11].contains month then 30
  else if month == 2 then (if isLeapYear year then 29 else 28)
  else 0

/-- A date `yyyy-mm-dd`. -/
def isDate (cs : List Char) : Bool :=
  match cs with
  | [y1, y2, y3, y4, '-', m1, m2, '-', d1, d2] =>
    match twoDigits? y1 y2, twoDigits? y3 y4, twoDigits? m1 m2, twoDigits? d1 d2 with
    | some c, some y, some m, some d => 1 ≤ d && d ≤ daysIn (c * 100 + y) m
    | _, _, _, _ => false
  | _ => false

/-- The minutes that an offset is ahead of universal time. -/
def offset? (cs : List Char) : Option Int :=
  match cs with
  | ['Z'] => some 0
  | ['z'] => some 0
  | [sign, h1, h2, ':', m1, m2] =>
    match twoDigits? h1 h2, twoDigits? m1 m2 with
    | some h, some m =>
      if 23 < h || 59 < m then none
      else if sign == '+' then some (h * 60 + m : Nat)
      else if sign == '-' then some (-(h * 60 + m : Nat))
      else none
    | _, _ => none
  | _ => none

/-- What follows the fraction of a second, if one is there. -/
def afterFraction? : List Char → Option (List Char)
  | '.' :: rest =>
    let digits := rest.takeWhile Char.isDigit
    if digits.isEmpty then none else some (rest.drop digits.length)
  | cs => some cs

/-- A time `hh:mm:ss` with an optional fraction and an offset. -/
def isTime (cs : List Char) : Bool :=
  match cs with
  | h1 :: h2 :: ':' :: m1 :: m2 :: ':' :: s1 :: s2 :: rest =>
    let offset := (afterFraction? rest).bind offset?
    match twoDigits? h1 h2, twoDigits? m1 m2, twoDigits? s1 s2, offset with
    | some h, some m, some s, some offset =>
      h ≤ 23 && m ≤ 59 && s ≤ 60 &&
        (s != 60 || ((h * 60 + m : Nat) - offset) % (24 * 60) == 23 * 60 + 59)
    | _, _, _, _ => false
  | _ => false

/-- A date and a time with a `T` between them. -/
def isDateTime (cs : List Char) : Bool :=
  let date := cs.takeWhile fun c => c != 'T' && c != 't'
  match cs.drop date.length with
  | _ :: time => isDate date && isTime time
  | [] => false

/-! ## Durations -/

/-- Reads numbers with units, each unit behind those before it, and says how many there are. -/
private def units? (order : List Char) : Nat → Nat → List Char → Option Nat
  | _, count, [] => some count
  | 0, _, _ => none
  | fuel + 1, count, cs =>
    let digits := cs.takeWhile Char.isDigit
    match digits, cs.drop digits.length with
    | _ :: _, unit :: rest =>
      if order.contains unit then
        units? ((order.dropWhile (· != unit)).drop 1) fuel (count + 1) rest
      else none
    | _, _ => none

private def hasUnits (order : List Char) (cs : List Char) : Bool :=
  ((units? order (order.length + 1) 0 cs).getD 0) != 0

/-- A duration: days, months and years, a time behind a `T`, or both; or weeks alone. -/
def isDuration (cs : List Char) : Bool :=
  match cs with
  | 'P' :: rest =>
    let date := rest.takeWhile (· != 'T')
    match rest.drop date.length with
    | [] => hasUnits ['Y', 'M', 'D'] date || hasUnits ['W'] date
    | _ :: time => (date.isEmpty || hasUnits ['Y', 'M', 'D'] date) && hasUnits ['H', 'M', 'S'] time
  | _ => false

end MessageContract.Format
