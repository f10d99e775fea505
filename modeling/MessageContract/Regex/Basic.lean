import MessageContract.Regex.Bracket.Basic

/-!
# Regular expressions

Patterns as trees: characters, sets of characters, places, sequence, choice, repetition, groups,
references back to groups, looks ahead and behind, conditions, and patterns that keep to their first
choice. Some parts an automaton can match; the hard ones need to go back.
-/

namespace MessageContract

/-- A place that takes up no text. -/
inductive Edge
  | textStart
  | textEnd
  | lineStart
  | lineEnd
  | boundary
  | noBoundary
  | wordStart
  | wordEnd
  deriving DecidableEq, Repr

/-- Places at words, which an automaton leaves to others. -/
def Edge.isHard : Edge → Bool
  | boundary => true
  | noBoundary => true
  | wordStart => true
  | wordEnd => true
  | _ => false

/-- A pattern. -/
inductive Regex
  | empty
  | char (c : Char) (fold : Bool)
  /-- Any character, line ends only if so said. -/
  | any (lineEnds : Bool)
  | set (chars : CharSet)
  | edge (kind : Edge)
  | seq (items : List Regex)
  | alt (choices : List Regex)
  /-- At least `least` times, and at most `most` times if that is given; as often as possible first
  if it is `greedy`, and as rarely as possible first if not. -/
  | repeat (body : Regex) (least : Nat) (most : Option Nat) (greedy : Bool)
  /-- A numbered group; `referred` tells whether something refers to it. -/
  | group (index : Nat) (referred : Bool) (body : Regex)
  /-- The text that a group holds. -/
  | back (index : Nat)
  /-- Whether a group holds a text. -/
  | holds (index : Nat)
  | look (ahead negated : Bool) (body : Regex)
  /-- The first way in which the body matches, and no other. -/
  | atomic (body : Regex)
  | condition (test yes no : Regex)
  /-- The match starts here, whatever came before. -/
  | keepOut
  /-- The place where matching started. -/
  | origin
  deriving Inhabited

namespace Regex

/-- Whether a pattern may be repeated: it has to be more than a place in the text. -/
def isRepeatable : Regex → Bool
  | empty => false
  | edge _ => false
  | look _ _ _ => false
  | _ => true

def isEmpty : Regex → Bool
  | empty => true
  | _ => false

mutual

/-- The number of characters that every match takes at least. -/
def minSize : Regex → Nat
  | char _ _ => 1
  | any _ => 1
  | set _ => 1
  | seq rs => sumSize rs
  | alt rs => leastSize rs
  | .repeat r least _ _ => minSize r * least
  | group _ _ r => minSize r
  | atomic r => minSize r
  | condition test yes no => minSize test + min (minSize yes) (minSize no)
  | _ => 0

def sumSize : List Regex → Nat
  | [] => 0
  | r :: rs => minSize r + sumSize rs

def leastSize : List Regex → Nat
  | [] => 0
  | [r] => minSize r
  | r :: rs => min (minSize r) (leastSize rs)

end

mutual

/-- How deep patterns are nested in a pattern. -/
def depth : Regex → Nat
  | seq rs => depthOf rs + 1
  | alt rs => depthOf rs + 1
  | .repeat r _ _ _ => depth r + 1
  | group _ _ r => depth r + 1
  | look _ _ r => depth r + 1
  | atomic r => depth r + 1
  | condition test yes no => max (depth test) (max (depth yes) (depth no)) + 1
  | _ => 1

def depthOf : List Regex → Nat
  | [] => 0
  | r :: rs => max (depth r) (depthOf rs)

end

mutual

/-- Whether all matches take the same number of characters. -/
def isConstSize : Regex → Bool
  | seq rs => areConstSize rs
  | alt rs => areConstSize rs && (rs.map minSize).all (· == leastSize rs)
  | .repeat r least most _ => isConstSize r && most == some least
  | group _ _ r => isConstSize r
  | back _ => false
  | atomic r => isConstSize r
  | condition test yes no =>
    isConstSize test && isConstSize yes && isConstSize no &&
      minSize test + minSize yes == minSize no
  | _ => true

def areConstSize : List Regex → Bool
  | [] => true
  | r :: rs => isConstSize r && areConstSize rs

end

mutual

/-- Whether a pattern needs more than an automaton. -/
def isHard : Regex → Bool
  | edge k => k.isHard
  | seq rs => anyHard rs
  | alt rs => anyHard rs
  | .repeat r _ _ _ => isHard r
  | group _ referred r => referred || isHard r
  | back _ => true
  | holds _ => true
  | look _ _ _ => true
  | atomic _ => true
  | condition _ _ _ => true
  | keepOut => true
  | origin => true
  | _ => false

def anyHard : List Regex → Bool
  | [] => false
  | r :: rs => isHard r || anyHard rs

end

mutual

/-- The numbers of the groups in a pattern. -/
def groups : Regex → List Nat
  | seq rs => groupsOf rs
  | alt rs => groupsOf rs
  | .repeat r _ _ _ => groups r
  | group i _ r => i :: groups r
  | look _ _ r => groups r
  | atomic r => groups r
  | condition test yes no => groups test ++ groups yes ++ groups no
  | _ => []

def groupsOf : List Regex → List Nat
  | [] => []
  | r :: rs => groups r ++ groupsOf rs

end

mutual

/-- The pattern with the groups marked that something refers to. -/
def markReferred (referred : List Nat) : Regex → Regex
  | seq rs => seq (markAll referred rs)
  | alt rs => alt (markAll referred rs)
  | .repeat r least most greedy => .repeat (markReferred referred r) least most greedy
  | group i _ r => group i (referred.contains i) (markReferred referred r)
  | look ahead negated r => look ahead negated (markReferred referred r)
  | atomic r => atomic (markReferred referred r)
  | condition test yes no =>
    condition (markReferred referred test) (markReferred referred yes) (markReferred referred no)
  | r => r

def markAll (referred : List Nat) : List Regex → List Regex
  | [] => []
  | r :: rs => markReferred referred r :: markAll referred rs

end

end Regex
end MessageContract
