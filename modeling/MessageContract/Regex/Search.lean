import MessageContract.Regex.Machine
import MessageContract.Regex.Reader

/-!
# Searching

A text as a pattern, and searching other texts for it: with an automaton if the pattern is not hard,
else with the machine.
-/

namespace MessageContract.Regex

/-- A pattern in the form in which it is searched for. -/
inductive Matcher
  | automaton (a : Automaton)
  | program (p : Program)

/-- The form in which a pattern is searched for, if there is one. -/
def Matcher.ofRegex? (r : Regex) : Option Matcher :=
  if r.isHard then (Program.ofRegex? r).map .program
  else if haveAutomaton [r] then some (.automaton (.ofList false [r]))
  else none

/-- The pattern that a text describes. -/
def Matcher.ofText? (text : String) : Option Matcher :=
  ((Grammar.normal? text).bind readTree?).bind ofRegex?

/-- Searches a text. -/
def Matcher.search (m : Matcher) (text : String) : Outcome :=
  let text := text.toList.toArray
  match m with
  | automaton a => if a.isMatch text then .found else .absent
  | program p => Machine.search p text

/-- Whether a pattern is found in a text. -/
def Matcher.isMatch (m : Matcher) (text : String) : Bool := m.search text == .found

/-- Whether a text is a pattern of the plain grammar, or goes beyond it. -/
def isPattern (text : String) : Bool := (Grammar.normal? text).isSome

end MessageContract.Regex
