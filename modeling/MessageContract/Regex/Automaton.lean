import MessageContract.Regex.Basic

/-!
# Automata

The patterns that are not hard, as automata. An automaton is in several states at once, the
preferred ones first; of two ways to match, it takes the one that starts with the preferred choice.
-/

namespace MessageContract

/-- Whether a place is at a position of a text. -/
def Edge.holds (text : Array Char) (pos : Nat) : Edge → Bool
  | textStart => pos == 0
  | textEnd => pos == text.size
  | lineStart => pos == 0 || text[pos - 1]? == some '\n'
  | lineEnd => pos == text.size || text[pos]? == some '\n'
  | boundary => before != after
  | noBoundary => before == after
  | wordStart => !before && after
  | wordEnd => before && !after
where
  before : Bool := 0 < pos && (text[pos - 1]?).any Property.word.holds
  after : Bool := (text[pos]?).any Property.word.holds

namespace Regex

/-- All characters but the line end. -/
def lineChars : CharSet := (CharSet.char '\n').complement

/-- The set of a pattern for one character. -/
def charSet? : Regex → Option CharSet
  | char c fold => some (if fold then (CharSet.char c).withCases else .char c)
  | any lineEnds => some (if lineEnds then .all else lineChars)
  | set s => some s
  | _ => none

end Regex

namespace Automaton

/-- What a state does. -/
inductive Step
  /-- Takes a character of a set. -/
  | read (chars : CharSet) (next : Nat)
  /-- Goes on in several states, the preferred ones first. -/
  | split (nexts : List Nat)
  | edge (kind : Edge) (next : Nat)
  /-- Notes the position in a slot. -/
  | mark (slot next : Nat)
  | accept

end Automaton

open Automaton in
/-- An automaton. -/
structure Automaton where
  states : Array Step
  start : Nat

namespace Automaton

/-! ## Building

Each pattern is added in front of the state that follows it; the result is the state it starts in.
-/

/-- Adds a part in front of a state. -/
private abbrev Adder := Nat → Array Step → Nat × Array Step

private def push (step : Step) (states : Array Step) : Nat × Array Step :=
  (states.size, states.push step)

/-- The two ways of a choice between going in and going on, the preferred one first. -/
private def ways (greedy : Bool) (within beyond : Nat) : List Nat :=
  if greedy then [within, beyond] else [beyond, within]

/-- Adds a part a number of times. -/
private def addTimes (part : Adder) : Nat → Adder
  | 0, next, states => (next, states)
  | n + 1, next, states =>
    let (next, states) := addTimes part n next states
    part next states

/-- Adds a part up to a number of times; each time it may be left out with all that follow. -/
private def addUpTo (part : Adder) (greedy : Bool) : Nat → Adder
  | 0, next, states => (next, states)
  | n + 1, beyond, states =>
    let (next, states) := addUpTo part greedy n beyond states
    let (within, states) := part next states
    push (.split (ways greedy within beyond)) states

/-- Adds a part once or more. -/
private def addMany (part : Adder) (greedy : Bool) : Adder := fun next states =>
  let (choice, states) := push (.split []) states
  let (within, states) := part choice states
  (within, states.setIfInBounds choice (.split (ways greedy within next)))

/-- Adds a part any number of times. A part that may take nothing is entered or left out first, so
that it is not entered again before it took something. -/
private def addAny (part : Adder) (takesNothing greedy : Bool) : Adder := fun next states =>
  if takesNothing then
    let (within, states) := addMany part greedy next states
    push (.split (ways greedy within next)) states
  else
    let (choice, states) := push (.split []) states
    let (within, states) := part choice states
    (choice, states.setIfInBounds choice (.split (ways greedy within next)))

mutual

/-- Adds a pattern; with `marked` the groups note where they start and end. -/
private def add (marked : Bool) : Regex → Adder
  | .edge k, next, states => push (.edge k next) states
  | .seq rs, next, states => addSeq marked rs next states
  | .alt rs, next, states =>
    let (starts, states) := addAlt marked rs next states
    push (.split starts) states
  | .repeat r least most greedy, next, states =>
    match most with
    | none =>
      match least with
      | 0 => addAny (add marked r) (r.minSize == 0) greedy next states
      | n + 1 =>
        let (next, states) := addMany (add marked r) greedy next states
        addTimes (add marked r) n next states
    | some most =>
      let (next, states) := addUpTo (add marked r) greedy (most - least) next states
      addTimes (add marked r) least next states
  | .group i _ r, next, states =>
    if marked then
      let (next, states) := push (.mark (2 * i + 1) next) states
      let (next, states) := add marked r next states
      push (.mark (2 * i) next) states
    else add marked r next states
  | r, next, states =>
    match r.charSet? with
    | some s => push (.read s next) states
    | none => (next, states)

private def addSeq (marked : Bool) : List Regex → Adder
  | [], next, states => (next, states)
  | r :: rs, next, states =>
    let (next, states) := addSeq marked rs next states
    add marked r next states

private def addAlt (marked : Bool) : List Regex → Nat → Array Step → List Nat × Array Step
  | [], _, states => ([], states)
  | r :: rs, next, states =>
    let (starts, states) := addAlt marked rs next states
    let (start, states) := add marked r next states
    (start :: starts, states)

end

/-- The automaton for a sequence of patterns. -/
def ofList (marked : Bool) (rs : List Regex) : Automaton :=
  let (start, states) := addSeq marked rs 0 #[.accept]
  ⟨states, start⟩

/-! ## Running -/

/-- A state with the slots noted on the way to it, latest first. -/
structure Thread where
  state : Nat
  slots : List (Nat × Nat)

/-- Follows threads up to states that read or accept; each state is entered once at a position.
`seen` holds for each state one more than the position where it was entered last. -/
private def follow (a : Automaton) (text : Array Char) (pos : Nat) :
    Nat → List Thread → Array Nat → List Thread → List Thread × Array Nat
  | 0, _, seen, found => (found.reverse, seen)
  | _ + 1, [], seen, found => (found.reverse, seen)
  | fuel + 1, t :: rest, seen, found =>
    if seen[t.state]? == some (pos + 1) then follow a text pos fuel rest seen found
    else
      let seen := seen.setIfInBounds t.state (pos + 1)
      match a.states[t.state]? with
      | some (.split nexts) =>
        follow a text pos fuel (nexts.map (fun n => { t with state := n }) ++ rest) seen found
      | some (.edge kind next) =>
        if kind.holds text pos then
          follow a text pos fuel ({ t with state := next } :: rest) seen found
        else follow a text pos fuel rest seen found
      | some (.mark slot next) =>
        follow a text pos fuel (⟨next, (slot, pos) :: t.slots⟩ :: rest) seen found
      | some _ => follow a text pos fuel rest seen (t :: found)
      | none => follow a text pos fuel rest seen found

/-- Enough to follow every way out of every state. -/
private def budget (a : Automaton) : Nat :=
  a.states.foldl (fun n s => match s with
    | .split nexts => n + nexts.length + 1
    | _ => n + 2) 2

/-- The threads that take the character at a position, up to one that accepts, and its slots. -/
private def advance (a : Automaton) (c : Option Char) :
    List Thread → Option (List (Nat × Nat)) × List Thread
  | [] => (none, [])
  | t :: rest =>
    match a.states[t.state]? with
    | some .accept => (some t.slots, [])
    | some (.read chars next) =>
      let (hit, threads) := advance a c rest
      (hit, if c.any chars.holds then { t with state := next } :: threads else threads)
    | _ => advance a c rest

private def searchFrom (a : Automaton) (budget : Nat) (text : Array Char) :
    Nat → Nat → List Thread → Array Nat → Option (Nat × List (Nat × Nat)) →
      Option (Nat × List (Nat × Nat))
  | 0, _, _, _, best => best
  | _ + 1, _, [], _, best => best
  | fuel + 1, pos, threads, seen, best =>
    let (reached, seen) := follow a text pos (budget + threads.length) threads seen []
    let (hit, threads) := advance a text[pos]? reached
    searchFrom a budget text fuel (pos + 1) threads seen ((hit.map (pos, ·)).or best)

/-- Where the preferred match from a position ends, with its slots. -/
def matchAt? (a : Automaton) (text : Array Char) (pos : Nat) : Option (Nat × List (Nat × Nat)) :=
  searchFrom a a.budget text (text.size + 2 - pos) pos [⟨a.start, []⟩]
    (Array.replicate a.states.size 0) none

private def existsFrom (a : Automaton) (budget : Nat) (text : Array Char) :
    Nat → Nat → List Thread → Array Nat → Bool
  | 0, _, _, _ => false
  | fuel + 1, pos, threads, seen =>
    let (reached, seen) :=
      follow a text pos (budget + threads.length) (threads ++ [⟨a.start, []⟩]) seen []
    let (hit, threads) := advance a text[pos]? reached
    hit.isSome || existsFrom a budget text fuel (pos + 1) threads seen

/-- Whether there is a match anywhere in a text. -/
def isMatch (a : Automaton) (text : Array Char) : Bool :=
  existsFrom a a.budget text (text.size + 1) 0 [] (Array.replicate a.states.size 0)

end Automaton
end MessageContract
