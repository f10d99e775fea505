import MessageContract.Unicode.CaseFold
import MessageContract.Unicode.Name

/-!
# Sets in brackets

What stands between brackets: characters and ranges, named sets, sets within the set, and the
common part, the difference and the symmetric difference of sets. Where case does not count, a set
takes in both cases before it is turned into its complement.
-/

namespace MessageContract.Regex

/-- A set that has a letter behind a backslash. -/
inductive Shorthand
  | digit
  | space
  | word
  deriving DecidableEq, Repr

/-- The characters of a shorthand. -/
def Shorthand.chars : Shorthand → CharSet
  | .digit => Category.decimalNumber
  | .space => Property.whiteSpace
  | .word => Property.word

/-- What `\p` asks for: a name, or a property and its value. -/
inductive Query
  | name (name : String)
  | value (name value : String)
  deriving DecidableEq, Repr

def Query.chars? : Query → Option CharSet
  | .name n => CharSet.ofName? n
  | .value n v => CharSet.ofNameAndValue? n v

/-- The sets of ASCII that have a name between colons. -/
def asciiSet? (name : String) : Option CharSet :=
  let letters (ranges : List (Nat × Nat)) : CharSet := .ofSpans (ranges.map fun r => ⟨r.1, r.2⟩)
  match name with
  | "alnum" => some (letters [(48, 57), (65, 90), (97, 122)])
  | "alpha" => some (letters [(65, 90), (97, 122)])
  | "ascii" => some (.range 0 127)
  | "blank" => some (letters [(9, 9), (32, 32)])
  | "cntrl" => some (letters [(0, 31), (127, 127)])
  | "digit" => some (.range 48 57)
  | "graph" => some (.range 33 126)
  | "lower" => some (.range 97 122)
  | "print" => some (.range 32 126)
  | "punct" => some (letters [(33, 47), (58, 64), (91, 96), (123, 126)])
  | "space" => some (letters [(9, 13), (32, 32)])
  | "upper" => some (.range 65 90)
  | "word" => some (letters [(48, 57), (65, 90), (95, 95), (97, 122)])
  | "xdigit" => some (letters [(48, 57), (65, 70), (97, 102)])
  | _ => none

/-- How two sets are combined. -/
inductive SetOperation
  | common
  | difference
  | symmetricDifference
  deriving DecidableEq, Repr

def SetOperation.apply : SetOperation → CharSet → CharSet → CharSet
  | common, a, b => a ∩ b
  | difference, a, b => a \ b
  | symmetricDifference, a, b => a.symmDiff b

/-- What may stand in brackets. -/
inductive Bracket
  | range (low high : Char)
  | shorthand (kind : Shorthand) (negated : Bool)
  | query (query : Query) (negated : Bool)
  | ascii (chars : CharSet) (negated : Bool)
  | items (items : List Bracket)
  | combine (operation : SetOperation) (left right : Bracket)
  | bracket (negated : Bool) (content : Bracket)

namespace Bracket

/-- Takes in both cases if case does not count, and turns into the complement if negated. -/
def close (fold negated : Bool) (s : CharSet) : CharSet :=
  let s := if fold then s.withCases else s
  if negated then s.complement else s

/-- The set of a shorthand; it holds both cases of its letters as it is. -/
def ofShorthand (kind : Shorthand) (negated : Bool) : CharSet := close false negated kind.chars

/-- The set that a query asks for. -/
def ofQuery? (fold : Bool) (query : Query) (negated : Bool) : Option CharSet :=
  query.chars?.map (close fold negated)

mutual

/-- The characters of a set, if all names in it are known. -/
def chars? (fold : Bool) : Bracket → Option CharSet
  | range low high => some (.range low.toNat high.toNat)
  | shorthand kind negated => some (ofShorthand kind negated)
  | query q negated => ofQuery? fold q negated
  | ascii s negated => some (close fold negated s)
  | items bs => charsOf? fold bs
  | combine operation a b =>
    match chars? fold a, chars? fold b with
    | some a, some b => some (operation.apply (close fold false a) (close fold false b))
    | _, _ => none
  | bracket negated content => (chars? fold content).map (close fold negated)

/-- The characters of several sets together. -/
def charsOf? (fold : Bool) : List Bracket → Option CharSet
  | [] => some .empty
  | b :: bs =>
    match chars? fold b, charsOf? fold bs with
    | some s, some t => some (s ∪ t)
    | _, _ => none

end

mutual

/-- How deep sets are nested, several items together and combinations counted as one step each. -/
def depth : Bracket → Nat
  | items [] => 0
  | items [b] => depth b
  | items bs => depthOf bs + 1
  | combine _ a b => max (depth a) (depth b) + 1
  | bracket _ content => depth content + 1
  | _ => 0

def depthOf : List Bracket → Nat
  | [] => 0
  | b :: bs => max (depth b) (depthOf bs)

end

end Bracket
end MessageContract.Regex
