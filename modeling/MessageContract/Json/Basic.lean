import MessageContract.Decimal.Double

/-!
# JSON values

Objects keep their members in order, each name once. `insert` keeps the place of a name that is
already there; `swapRemove` moves the last member into the freed place.
-/

namespace MessageContract

/-- A number: an integer between `-2^63` and `2^64 - 1`, or a finite double. -/
inductive Number
  | int (value : Int)
  | double (value : Double)
  deriving DecidableEq, Repr

/-- A JSON value. -/
inductive Json
  | null
  | bool (value : Bool)
  | num (value : Number)
  | str (value : String)
  | arr (items : List Json)
  | obj (members : List (String × Json))
  deriving Inhabited, Repr

/-- The members of an object. -/
abbrev Members := List (String × Json)

namespace Members

/-- The value of a name. -/
def get? : Members → String → Option Json
  | [], _ => none
  | (k, v) :: rest, name => if k = name then some v else get? rest name

/-- Sets a name: in its place if it is there, at the end if not. -/
def insert : Members → String → Json → Members
  | [], name, value => [(name, value)]
  | (k, v) :: rest, name, value =>
    if k = name then (k, value) :: rest else (k, v) :: insert rest name value

/-- The members without a name, the others in order. -/
def erase : Members → String → Members
  | [], _ => []
  | (k, v) :: rest, name => if k = name then rest else (k, v) :: erase rest name

/-- Replaces the first member of a name by another member. -/
def replace : Members → String → String × Json → Members
  | [], _, _ => []
  | (k, v) :: rest, name, entry =>
    if k = name then entry :: rest else (k, v) :: replace rest name entry

/-- Removes a name; the last member moves into its place. -/
def swapRemove (ms : Members) (name : String) : Members :=
  match ms.getLast? with
  | none => []
  | some last =>
    if last.1 = name then ms.dropLast
    else if (get? ms name).isSome then replace ms.dropLast name last
    else ms

/-- An object from members in order of writing: a later one replaces the value of an earlier. -/
def ofList (entries : List (String × Json)) : Members :=
  entries.foldl (fun ms e => insert ms e.1 e.2) []

end Members

namespace Json

/-- The member of an object. -/
def get? : Json → String → Option Json
  | .obj ms, name => Members.get? ms name
  | _, _ => none

def asString? : Json → Option String
  | .str s => some s
  | _ => none

def isString (v : Json) : Bool := v.asString?.isSome

def isObject : Json → Bool
  | .obj _ => true
  | _ => false

def isBool : Json → Bool
  | .bool _ => true
  | _ => false

def asMembers? : Json → Option Members
  | .obj ms => some ms
  | _ => none

def isNull : Json → Bool
  | .null => true
  | _ => false

def int (n : Int) : Json := .num (.int n)

mutual

/-- The number of values in a value, itself included. -/
def count : Json → Nat
  | .arr items => countItems items + 1
  | .obj ms => countMembers ms + 1
  | _ => 1

def countItems : List Json → Nat
  | [] => 0
  | v :: rest => v.count + countItems rest

def countMembers : List (String × Json) → Nat
  | [] => 0
  | (_, v) :: rest => v.count + countMembers rest

end

mutual

/-- How deep arrays and objects are nested. -/
def depth : Json → Nat
  | .arr items => depthItems items + 1
  | .obj ms => depthMembers ms + 1
  | _ => 0

def depthItems : List Json → Nat
  | [] => 0
  | v :: rest => max v.depth (depthItems rest)

def depthMembers : List (String × Json) → Nat
  | [] => 0
  | (_, v) :: rest => max v.depth (depthMembers rest)

end

end Json
end MessageContract
