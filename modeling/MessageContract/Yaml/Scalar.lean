import MessageContract.Yaml.Basic

/-!
# What plain scalars stand for

A plain scalar is null, a boolean, an integer or a double if it is spelled like one, and text
otherwise. Integers wider than 64 bits are refused where they still fit into 128.
-/

namespace MessageContract.Yaml.Scalar

/-- What a scalar stands for. -/
inductive Meaning
  | value (v : Yaml)
  /-- An integer of more than 64 bits. -/
  | wide (value : Int)

def isNull (s : String) : Bool := s == "null" || s == "Null" || s == "NULL" || s == "~"

def bool? (s : String) : Option Bool :=
  if s == "true" || s == "True" || s == "TRUE" then some true
  else if s == "false" || s == "False" || s == "FALSE" then some false
  else none

/-- The value of a digit in a base up to sixteen. -/
def digit? (base : Nat) (c : Char) : Option Nat :=
  let n :=
    if '0' ≤ c ∧ c ≤ '9' then c.toNat - 48
    else if 'a' ≤ c ∧ c ≤ 'f' then c.toNat - 87
    else if 'A' ≤ c ∧ c ≤ 'F' then c.toNat - 55
    else 16
  if n < base then some n else none

/-- A natural number in digits only. -/
def natural? (base : Nat) (cs : List Char) : Option Nat :=
  if cs.isEmpty then none
  else (cs.mapM (digit? base)).map fun ds => ds.foldl (fun n d => n * base + d) 0

/-- Drops one sign of a kind. -/
def dropSign (sign : Char) : List Char → List Char
  | c :: rest => if c == sign then rest else c :: rest
  | [] => []

/-- Digits behind a zero, after any sign: not a number. -/
def hasLeadingZero (s : List Char) : Bool :=
  let s := match s with
    | '-' :: rest => rest
    | '+' :: rest => rest
    | _ => s
  match s with
  | '0' :: c :: rest => (c :: rest).all Char.isDigit
  | _ => false

/-- Digits of a base after `0x`, `0o` or `0b`. -/
def based? : List Char → Option Nat
  | '0' :: 'x' :: rest => natural? 16 rest
  | '0' :: 'o' :: rest => natural? 8 rest
  | '0' :: 'b' :: rest => natural? 2 rest
  | _ => none

/-- An integer in digits, which may have a sign and a base. -/
def integer? (s : List Char) : Option Int :=
  match s with
  | '-' :: rest =>
    match based? rest with
    | some n => some (-(n : Int))
    | none => if hasLeadingZero s then none else (natural? 10 rest).map fun n => -(n : Int)
  | _ =>
    let rest := dropSign '+' s
    match based? rest with
    | some n => some n
    | none => if hasLeadingZero s then none else (natural? 10 rest).map fun (n : Nat) => (n : Int)

/-- The meaning of an integer, if it fits into 128 bits. -/
def ofInteger? (n : Int) : Option Meaning :=
  if -(Nat.pow 2 63) ≤ n ∧ n < Nat.pow 2 64 then some (.value (.int n))
  else if -(Nat.pow 2 127) ≤ n ∧ n < Nat.pow 2 128 then some (.wide n)
  else none

/-- Splits digits off the front. -/
private def digits (cs : List Char) : List Char × List Char := cs.span Char.isDigit

/-- A double in decimal notation: digits with or without a point, then an exponent or none. -/
def decimal? (s : List Char) : Option Double :=
  let (negative, s) := match s with
    | '-' :: rest => (true, rest)
    | '+' :: rest => (false, rest)
    | _ => (false, s)
  let (whole, s) := digits s
  let (fraction, s) := match s with
    | '.' :: rest => digits rest
    | _ => ([], s)
  if whole.isEmpty && fraction.isEmpty then none
  else
    let mantissa := (whole ++ fraction).foldl (fun n c => n * 10 + (c.toNat - 48)) 0
    let scale : Int := -(fraction.length : Int)
    match s with
    | [] => some (.ofDecimal negative mantissa scale)
    | e :: rest =>
      if e != 'e' && e != 'E' then none
      else
        let (down, rest) := match rest with
          | '-' :: r => (true, r)
          | '+' :: r => (false, r)
          | _ => (false, rest)
        match natural? 10 rest with
        | none => none
        | some n =>
          let n : Int := if down then -(n : Int) else n
          some (.ofDecimal negative mantissa (scale + n))

/-- A double: decimal and finite, or the words for infinity and not-a-number. -/
def double? (s : String) : Option Double :=
  let cs := s.toList
  let unsigned := dropSign '+' cs
  let inf := [".inf".toList, ".Inf".toList, ".INF".toList]
  if cs.head? == some '+' && (unsigned.head? == some '+' || unsigned.head? == some '-') then none
  else if inf.contains unsigned then some (.infinity false)
  else if cs.head? == some '-' && inf.contains (cs.drop 1) then some (.infinity true)
  else if s == ".nan" || s == ".NaN" || s == ".NAN" then some .nan
  else (decimal? unsigned).filter Double.isFinite

/-- The meaning of an integer scalar. -/
def ofInteger (s : String) : Option Meaning := (integer? s.toList).bind ofInteger?

/-- The meaning of a plain scalar. -/
def ofPlain (s : String) : Meaning :=
  if s.isEmpty || isNull s then .value .null
  else
    match bool? s with
    | some b => .value (.bool b)
    | none =>
      match ofInteger s with
      | some m => m
      | none =>
        match if hasLeadingZero s.toList then none else double? s with
        | some d => .value (.double d)
        | none => .value (.str s)

end MessageContract.Yaml.Scalar
