import MessageContract.Regex.Size

/-!
# Programs

The hard patterns, as programs for a machine that goes back. What is not hard in them is left to
automata where that makes no difference to what the rest can match.
-/

namespace MessageContract.Regex

/-- An instruction. Targets are indices of instructions. -/
inductive Instruction
  /-- Takes characters of one set after another. -/
  | read (chars : List CharSet)
  /-- Takes what an automaton prefers, and notes its groups. -/
  | automaton (a : Automaton) (groups : List Nat)
  | edge (kind : Edge)
  /-- Goes on at the first target, and at the second when that fails. -/
  | split (first second : Nat)
  | jump (target : Nat)
  /-- Notes the position in a slot. -/
  | save (slot : Nat)
  /-- Sets a slot to zero. -/
  | reset (slot : Nat)
  /-- Goes back to the position in a slot. -/
  | restore (slot : Nat)
  /-- Enters a body that follows, or goes on at `next`; the slot counts how often it was entered. -/
  | again (least : Nat) (most : Option Nat) (greedy : Bool) (next counter : Nat)
  /-- The same for a body that may take nothing: having taken nothing fails. -/
  | againUnlessEmpty (least : Nat) (greedy : Bool) (next counter last : Nat)
  /-- Goes back by characters. -/
  | goBack (count : Nat)
  /-- A negated look has matched. -/
  | failLook
  /-- Takes the text of a group. -/
  | back (index : Nat)
  /-- Fails unless a group has matched. -/
  | holds (index : Nat)
  | beginAtomic
  | endAtomic
  /-- Fails unless matching started here. -/
  | origin
  | finish

/-- Instructions, and how many slots they use. -/
structure Program where
  code : Array Instruction
  slots : Nat

namespace Program

private def pc (p : Program) : Nat := p.code.size

private def emit (p : Program) (i : Instruction) : Program := { p with code := p.code.push i }

private def set (p : Program) (pc : Nat) (i : Instruction) : Program :=
  { p with code := p.code.setIfInBounds pc i }

/-- The next free slot. -/
private def fresh (p : Program) : Nat × Program := (p.slots, { p with slots := p.slots + 1 })

/-! ## Parts for automata -/

mutual

/-- A pattern that takes one character after another. -/
private def plainSets? : Regex → Option (List CharSet)
  | .empty => some []
  | .seq rs => plainSetsOf? rs
  | r => r.charSet?.map ([·])

private def plainSetsOf? : List Regex → Option (List CharSet)
  | [] => some []
  | r :: rs =>
    match plainSets? r, plainSetsOf? rs with
    | some s, some t => some (s ++ t)
    | _, _ => none

end

/-- Leaves a sequence of patterns to an automaton. -/
private def addEasy (rs : List Regex) (p : Program) : Option Program :=
  if rs.isEmpty then some p
  else
    match plainSetsOf? rs with
    | some sets => some (p.emit (.read sets))
    | none =>
      if haveAutomaton rs then
        let groups := groupsOf rs
        some (p.emit (.automaton (.ofList (!groups.isEmpty) rs) groups))
      else none

private def isPlainStep (r : Regex) : Bool := r.isConstSize && !r.isHard

/-! ## Compilation -/

/-- How a part is added to a program. -/
private abbrev Adder := Program → Option Program

/-- Choices, tried in order. -/
private def addChoices : List Adder → Adder
  | [], p => some p
  | [add], p => add p
  | add :: adds, p => do
    let split := p.pc
    let p ← add (p.emit (.split (split + 1) 0))
    let jump := p.pc
    let p := p.emit (.jump 0)
    let p ← addChoices adds (p.set split (.split (split + 1) p.pc))
    some (p.set jump (.jump p.pc))

private def addAll : List Adder → Adder
  | [], p => some p
  | add :: adds, p => (add p).bind (addAll adds)

/-- A body that may be left out. -/
private def addOptional (greedy : Bool) (body : Adder) : Adder := fun p => do
  let split := p.pc
  let p ← body (p.emit (.split (split + 1) (split + 1)))
  some (p.set split (if greedy then .split (split + 1) p.pc else .split p.pc (split + 1)))

/-- A body any number of times. -/
private def addAny (greedy : Bool) (body : Adder) : Adder := fun p => do
  let split := p.pc
  let p ← body (p.emit (.split (split + 1) (split + 1)))
  let p := p.emit (.jump split)
  some (p.set split (if greedy then .split (split + 1) p.pc else .split p.pc (split + 1)))

/-- A body once or more. -/
private def addMany (greedy : Bool) (body : Adder) : Adder := fun p => do
  let start := p.pc
  let p ← body p
  let next := p.pc + 1
  some (p.emit (if greedy then .split start next else .split next start))

/-- A body a counted number of times. -/
private def addCounted (least : Nat) (most : Option Nat) (greedy : Bool) (body : Adder) : Adder :=
  fun p => do
    let (counter, p) := p.fresh
    let p := p.emit (.reset counter)
    let start := p.pc
    let p ← body (p.emit (.again least most greedy 0 counter))
    let p := p.emit (.jump start)
    some (p.set start (.again least most greedy p.pc counter))

/-- A body that may take nothing, without an end to how often. -/
private def addUnlessEmpty (least : Nat) (greedy : Bool) (body : Adder) : Adder := fun p => do
  let (counter, p) := p.fresh
  let (last, p) := p.fresh
  let p := p.emit (.reset counter)
  let start := p.pc
  let p ← body (p.emit (.againUnlessEmpty least greedy 0 counter last))
  let p := p.emit (.jump start)
  some (p.set start (.againUnlessEmpty least greedy p.pc counter last))

private def addRepeat (least : Nat) (most : Option Nat) (greedy takesNothing : Bool)
    (body : Adder) : Adder :=
  match least, most with
  | 0, some 1 => addOptional greedy body
  | least, none =>
    if takesNothing then addUnlessEmpty least greedy body
    else if least == 0 then addAny greedy body
    else if least == 1 then addMany greedy body
    else addCounted least none greedy body
  | least, most => addCounted least most greedy body

/-- A look in one direction; behind, every match has to take the same number of characters. -/
private def addLook (ahead negated : Bool) (r : Regex) (body : Adder) : Adder := fun p => do
  let inside (p : Program) : Option Program :=
    if ahead then body p
    else if r.isConstSize then body (p.emit (.goBack r.minSize))
    else none
  if negated then
    let split := p.pc
    let p ← inside (p.emit (.split (split + 1) 0))
    let p := p.emit .failLook
    some (p.set split (.split (split + 1) p.pc))
  else
    let (slot, p) := p.fresh
    let p ← inside (p.emit (.save slot))
    some (p.emit (.restore slot))

/-- A test, and what follows it in both cases. -/
private def addCondition (test yes no : Adder) : Adder := fun p => do
  let p := p.emit .beginAtomic
  let split := p.pc
  let p ← test (p.emit (.split (split + 1) 0))
  let p ← yes (p.emit .endAtomic)
  let jump := p.pc
  let p := p.emit (.jump 0)
  let p ← no (p.set split (.split (split + 1) p.pc))
  some (p.set jump (.jump p.pc))

/-- Adds a pattern. With `hard` something that follows may need the pattern to match otherwise. -/
private def add : Nat → Bool → Regex → Adder
  | 0, _, _, _ => none
  | fuel + 1, hard, r, p =>
    if !hard && !r.isHard then addEasy [r] p
    else
      match r with
      | .seq rs =>
        let before := rs.takeWhile isPlainStep
        let rest := rs.drop before.length
        let isPlain (r : Regex) : Bool := !r.isHard && (!hard || r.isConstSize)
        let behind := (rest.reverse.takeWhile isPlain).reverse
        let between := rest.take (rest.length - behind.length)
        addAll ([addEasy before] ++ between.map (add fuel true) ++ [addEasy behind]) p
      | .alt rs => addChoices (rs.map (add fuel hard)) p
      | .repeat r least most greedy =>
        let hard := if least == 0 && most == some 1 then hard else hard || r.isHard
        addRepeat least most greedy (r.minSize == 0) (add fuel hard r) p
      | .group i _ r =>
        (add fuel hard r (p.emit (.save (2 * i)))).map fun p => p.emit (.save (2 * i + 1))
      | .look true negated r => addLook true negated r (add fuel false r) p
      | .look false negated r =>
        match r with
        | .alt rs =>
          if r.isConstSize then addLook false negated r (add fuel false r) p
          else
            let looks := rs.map fun r => addLook false negated r (add fuel false r)
            if negated then addAll looks p else addChoices looks p
        | r => addLook false negated r (add fuel false r) p
      | .back i => some (p.emit (.back i))
      | .holds i => some (p.emit (.holds i))
      | .atomic r => (add fuel false r (p.emit .beginAtomic)).map fun p => p.emit .endAtomic
      | .condition test yes no =>
        addCondition (add fuel hard test) (add fuel hard yes) (add fuel hard no) p
      | .edge k => some (p.emit (.edge k))
      | .keepOut => some (p.emit (.save 0))
      | .origin => some (p.emit .origin)
      | r =>
        match r.charSet? with
        | some s => some (p.emit (.read [s]))
        | none => some p

/-- The program for a pattern, which may start anywhere in a text. -/
def ofRegex? (r : Regex) : Option Program := do
  let groups := r.groups.length + 1
  let anywhere : Regex := .repeat (.any true) 0 none false
  let p ← add (r.depth + 4) false (.seq [anywhere, .group 0 true r]) ⟨#[], 2 * groups⟩
  some (p.emit .finish)

end Program
end MessageContract.Regex
