import MessageContract.Decimal.Shortest

/-!
# YAML values

The tree of a YAML document. Mappings keep their entries in order and may have any value as a key;
doubles may be infinite or not numbers.
-/

namespace MessageContract

/-- A YAML value. -/
inductive Yaml
  | null
  | bool (value : Bool)
  | int (value : Int)
  | double (value : Double)
  | str (value : String)
  | seq (items : List Yaml)
  | map (entries : List (Yaml × Yaml))
  | tagged (tag : String) (value : Yaml)
  deriving Inhabited, Repr

/-- Doubles as mapping keys: like JSON text, but without a sign before a positive exponent. -/
def Layout.yaml : Layout := ⟨4, 16, true, false⟩

namespace Yaml

/-- The text of a double. -/
def writeDouble (d : Double) : String :=
  if d.isNaN then ".nan"
  else if d.isInfinite then (if d.negative then "-.inf" else ".inf")
  else d.write .yaml

/-- Whether two doubles are one as keys: equal numbers, or both not numbers. -/
def sameDouble (a b : Double) : Bool :=
  (a.isNaN && b.isNaN) || (a.isZero && b.isZero) || (!a.isNaN && a == b)

/-- A tag without its leading `!`, unless nothing is left. -/
def bareTag (tag : String) : String :=
  match tag.toList with
  | '!' :: c :: rest => String.ofList (c :: rest)
  | _ => tag

mutual

/-- Whether two values are one as keys; the order of mapping entries does not matter. -/
def same : Yaml → Yaml → Bool
  | .null, .null => true
  | .bool a, .bool b => a == b
  | .int a, .int b => a == b
  | .double a, .double b => sameDouble a b
  | .str a, .str b => a == b
  | .seq as, .seq bs => sameItems as bs
  | .map as, .map bs => as.length == bs.length && sameEntries as bs
  | .tagged s a, .tagged t b => bareTag s == bareTag t && same a b
  | _, _ => false

def sameItems : List Yaml → List Yaml → Bool
  | [], [] => true
  | a :: as, b :: bs => same a b && sameItems as bs
  | _, _ => false

/-- Whether each entry of the first list occurs in the second. -/
def sameEntries : List (Yaml × Yaml) → List (Yaml × Yaml) → Bool
  | [], _ => true
  | (k, v) :: rest, bs => bs.any (fun e => same k e.1 && same v e.2) && sameEntries rest bs

end

end Yaml
end MessageContract
