import MessageContract.Json.Basic

/-!
# JSON Pointers

A pointer is empty or a list of segments, each behind a slash; `~1` stands for a slash and `~0` for
a tilde. A segment is a name in an object and an index in an array.
-/

namespace MessageContract
namespace Pointer

/-- A segment with its escapes undone. -/
def unescape : List Char → List Char
  | '~' :: '1' :: rest => '/' :: unescape rest
  | '~' :: '0' :: rest => '~' :: unescape rest
  | c :: rest => c :: unescape rest
  | [] => []

/-- A name written as a segment. -/
def escape (cs : List Char) : List Char :=
  cs.flatMap fun c => if c = '~' then ['~', '0'] else if c = '/' then ['~', '1'] else [c]

theorem unescape_escape (cs : List Char) : unescape (escape cs) = cs := by
  induction cs with
  | nil => rfl
  | cons c cs ih =>
    by_cases h : c = '~'
    · subst h; simpa [escape, unescape] using ih
    · by_cases h' : c = '/'
      · subst h'; simpa [escape, unescape] using ih
      · have he : escape (c :: cs) = c :: escape cs := by simp [escape, h, h']
        rw [he, unescape.eq_3 c _ (by simp [h]) (by simp [h]), ih]

/-- The pieces between slashes, as they are written. -/
def pieces : List Char → List (List Char)
  | [] => [[]]
  | c :: rest =>
    if c = '/' then [] :: pieces rest
    else
      match pieces rest with
      | [] => [[c]]
      | p :: ps => (c :: p) :: ps

/-- The segments of a pointer, if the text is one. -/
def segments? (cs : List Char) : Option (List (List Char)) :=
  match cs with
  | [] => some []
  | '/' :: rest => some ((pieces rest).map unescape)
  | _ => none

/-- An index: digits without a zero in front. -/
def index? (cs : List Char) : Option Nat :=
  if cs.isEmpty || !cs.all Char.isDigit || (cs.head? == some '0' && cs.length != 1) then none
  else some (cs.foldl (fun n c => n * 10 + (c.toNat - 48)) 0)

/-- The value one segment further. -/
def step? (segment : List Char) : Json → Option Json
  | .obj ms => Members.get? ms (String.ofList segment)
  | .arr items => (index? segment).bind fun i => items[i]?
  | _ => none

/-- The value that segments lead to. -/
def follow? : List (List Char) → Json → Option Json
  | [], v => some v
  | s :: rest, v => (step? s v).bind (follow? rest)

end Pointer

/-- The value that a pointer leads to. -/
def Json.pointer? (v : Json) (pointer : String) : Option Json :=
  (Pointer.segments? pointer.toList).bind fun ss => Pointer.follow? ss v

end MessageContract
