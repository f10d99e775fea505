import MessageContract.Diagnostic
import MessageContract.Json.Basic
import MessageContract.Location

/-!
# References

An object with a text under `$ref` stands for the value that the text names: a document, before
the `#`, and a place in it, behind the `#`. Whatever else such an object holds does not count.
-/

namespace MessageContract

/-- The reference that a value is, if it is one. -/
def Json.reference? : Json → Option String
  | .obj ms =>
    match Members.get? ms "$ref" with
    | some (.str r) => some r
    | _ => none
  | _ => none

namespace Reference

/-- The document and the place that a reference names. -/
def split (reference : String) : String × String :=
  let cs := reference.toList
  (String.ofList (cs.takeWhile (· != '#')), String.ofList ((cs.dropWhile (· != '#')).drop 1))

/-- The document part of a reference. -/
def document (reference : String) : String := (split reference).1

/-- The place inside the document. -/
def fragment (reference : String) : String := (split reference).2

/-- A reference and the path of the object that holds it. -/
structure Site where
  path : List String
  reference : String
  deriving DecidableEq, Repr

mutual

/-- The references in a value that stands at a path, in order. -/
def sitesAt (path : List String) : Json → List Site
  | .obj ms =>
    match (Json.obj ms).reference? with
    | some r => [⟨path, r⟩]
    | none => sitesOfMembers path ms
  | .arr items => sitesOfItems path 0 items
  | _ => []

def sitesOfMembers (path : List String) : List (String × Json) → List Site
  | [] => []
  | (k, v) :: rest => sitesAt (path ++ [k]) v ++ sitesOfMembers path rest

def sitesOfItems (path : List String) (index : Nat) : List Json → List Site
  | [] => []
  | v :: rest => sitesAt (path ++ [toString index]) v ++ sitesOfItems path (index + 1) rest

end

/-- The references in a document. -/
def sites (document : Json) : List Site := sitesAt [] document

/-- A finding at a reference in the document `referrer`. -/
def finding (root referrer : Location) (path : List String) (message : String) : Diagnostic :=
  ⟨.invalidRef, message, .error, path, if referrer == root then none else some referrer.write⟩

/-- A finding made at some reference. -/
def IsFinding (root : Location) (d : Diagnostic) : Prop :=
  ∃ referrer path message, d = finding root referrer path message

theorem IsFinding.isError {root : Location} {d : Diagnostic} (h : IsFinding root d) :
    d.isError = true := by
  obtain ⟨_, _, _, rfl⟩ := h
  rfl

theorem IsFinding.code {root : Location} {d : Diagnostic} (h : IsFinding root d) :
    d.code = .invalidRef := by
  obtain ⟨_, _, _, rfl⟩ := h
  rfl

end Reference

/-- Documents by location. -/
abbrev Documents := List (Location × Json)

/-- The document at a location, and the location under which it is kept. -/
def Documents.find? (ds : Documents) (l : Location) : Option (Location × Json) :=
  List.find? (fun d => d.1 == l) ds

end MessageContract
