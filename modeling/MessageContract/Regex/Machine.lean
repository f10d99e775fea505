import MessageContract.Regex.Program

/-!
# The machine

Runs a program on a text. Where a choice was made, the machine comes back when what it chose fails,
with all slots as they were. It gives up after it came back too often.
-/

namespace MessageContract.Regex

/-- How matching ends. -/
inductive Outcome
  | found
  | absent
  /-- The machine came back too often. -/
  | exhausted
  /-- Too many choices were open. -/
  | overfull
  deriving DecidableEq, Repr

namespace Machine

/-- How often the machine comes back, and how many choices may be open. -/
def limit : Nat := 1000000

/-- Where the machine stands: the next instruction, the position, the slots, and for each group that
keeps to its first choice how many choices were open before it. -/
structure Place where
  pc : Nat
  pos : Nat
  slots : Array (Option Nat)
  marks : List Nat

/-- A place, and those that are left to come back to. -/
structure State where
  here : Place
  open' : List Place
  /-- How many places are left. -/
  count : Nat
  /-- How often the machine came back. -/
  failures : Nat

/-- A step leads to a state or to the end. -/
inductive Step
  | next (s : State)
  | done (o : Outcome)

namespace State

private def slot (s : State) (i : Nat) : Option Nat := (s.here.slots[i]?).join

private def set (s : State) (i : Nat) (v : Option Nat) : State :=
  { s with here := { s.here with slots := s.here.slots.setIfInBounds i v } }

private def goTo (s : State) (pc pos : Nat) : State :=
  { s with here := { s.here with pc := pc, pos := pos } }

/-- Goes on with the next instruction at a position. -/
private def on (s : State) (pos : Nat) : Step := .next (s.goTo (s.here.pc + 1) pos)

/-- Comes back to the last choice. -/
private def fail (s : State) : Step :=
  match s.open' with
  | [] => .done .absent
  | p :: rest =>
    if limit ≤ s.failures then .done .exhausted
    else .next ⟨p, rest, s.count - 1, s.failures + 1⟩

/-- Leaves a place to come back to, and goes on elsewhere. -/
private def choose (s : State) (first second : Nat) : Step :=
  if limit ≤ s.count then .done .overfull
  else .next { s with
    here := { s.here with pc := first }
    open' := { s.here with pc := second } :: s.open'
    count := s.count + 1 }

/-- Keeps only as many open choices. -/
private def cut (s : State) (count : Nat) : State :=
  { s with open' := s.open'.drop (s.count - count), count := min count s.count }

end State

/-- The position behind characters of one set after another. -/
private def readAll (text : Array Char) : List CharSet → Nat → Option Nat
  | [], pos => some pos
  | s :: sets, pos =>
    match text[pos]? with
    | some c => if s.holds c then readAll text sets (pos + 1) else none
    | none => none

/-- Whether the text from a position on repeats what stands from a start up to a stop. -/
private def repeats (text : Array Char) (start stop pos : Nat) : Bool :=
  text.extract start stop == text.extract pos (pos + (stop - start))

/-- Notes where the groups of an automaton start and end. -/
private def withGroups (found : List (Nat × Nat)) (groups : List Nat) (s : State) : State :=
  groups.foldl (fun s i =>
    match found.lookup (2 * i), found.lookup (2 * i + 1) with
    | some start, some stop => (s.set (2 * i) (some start)).set (2 * i + 1) (some stop)
    | _, _ => (s.set (2 * i) none).set (2 * i + 1) none) s

/-- Drops the open choices down to the one behind a negated look. -/
private def leaveLook (target : Nat) : List Place → Nat → List Place × Nat
  | [], n => ([], n)
  | p :: rest, n => if p.pc == target then (rest, n - 1) else leaveLook target rest (n - 1)

/-- Runs one instruction. -/
def step (text : Array Char) (i : Instruction) (s : State) : Step :=
  let pc := s.here.pc
  let pos := s.here.pos
  let check (b : Bool) : Step := if b then s.on pos else s.fail
  match i with
  | .read sets =>
    match readAll text sets pos with
    | some pos => s.on pos
    | none => s.fail
  | .automaton a groups =>
    match a.matchAt? text pos with
    | some (stop, found) => (withGroups found groups s).on stop
    | none => s.fail
  | .edge k => check (k.holds text pos)
  | .split first second => s.choose first second
  | .jump target => .next (s.goTo target pos)
  | .save slot => (s.set slot (some pos)).on pos
  | .reset slot => (s.set slot (some 0)).on pos
  | .restore slot => s.on ((s.slot slot).getD pos)
  | .again least most greedy next counter =>
    let n := (s.slot counter).getD 0
    if most == some n then .next (s.goTo next pos)
    else
      let s := s.set counter (some (n + 1))
      if n < least then s.on pos
      else if greedy then s.choose (pc + 1) next
      else s.choose next (pc + 1)
  | .againUnlessEmpty least greedy next counter last =>
    let n := (s.slot counter).getD 0
    if 0 < n && s.slot last == some pos then s.fail
    else
      let s := s.set counter (some (n + 1))
      if n < least then s.on pos
      else
        let s := s.set last (some pos)
        if greedy then s.choose (pc + 1) next else s.choose next (pc + 1)
  | .goBack count => if count ≤ pos then s.on (pos - count) else s.fail
  | .failLook =>
    let (rest, count) := leaveLook (pc + 1) s.open' s.count
    State.fail { s with open' := rest, count := count }
  | .back i =>
    match s.slot (2 * i), s.slot (2 * i + 1) with
    | some start, some stop =>
      if repeats text start stop pos then s.on (pos + (stop - start)) else s.fail
    | _, _ => s.fail
  | .holds i => check (s.slot (2 * i)).isSome
  | .beginAtomic =>
    State.on { s with here := { s.here with marks := s.count :: s.here.marks } } pos
  | .endAtomic =>
    match s.here.marks with
    | count :: marks => State.on ({ s with here := { s.here with marks := marks } }.cut count) pos
    | [] => s.on pos
  | .origin => check (pos == 0)
  | .finish => .done .found

/-- Runs instructions up to the end. -/
def run (p : Program) (text : Array Char) : Nat → State → Outcome
  | 0, _ => .exhausted
  | fuel + 1, s =>
    match p.code[s.here.pc]? with
    | none => .absent
    | some i =>
      match step text i s with
      | .next s => run p text fuel s
      | .done o => o

/-- More steps than are taken before the machine gives up. -/
def stepLimit : Nat := 1000000000000

/-- Looks for a match of a program anywhere in a text. -/
def search (p : Program) (text : Array Char) : Outcome :=
  run p text stepLimit ⟨⟨0, 0, Array.replicate p.slots none, []⟩, [], 0, 0⟩

end Machine
end MessageContract.Regex
