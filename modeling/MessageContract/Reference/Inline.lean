import MessageContract.Json.Pointer
import MessageContract.Reference.Basic

/-!
# Inlining references

Every reference is replaced by the value it names, with the references inside that value replaced
in turn. A reference back to a value that is being inlined is a cycle: one into the root document
stays, as a reference by fragment alone, and one into another document is told.
-/

namespace MessageContract

/-- The root document, and the documents loaded for it. -/
structure Sources where
  root : Json
  location : Location
  store : Documents

/-- A value under inlining, by its document and pointer. -/
structure Target where
  location : Location
  pointer : String

instance : BEq Target := ⟨fun a b => a.location == b.location && a.pointer == b.pointer⟩

/-- A value with its references inlined, and what was found on the way. -/
structure Inlined (α : Type) where
  value : α
  findings : List Diagnostic

namespace Sources

/-- The document that a reference from `base` leads to. -/
def find? (s : Sources) (base : Location) (document : String) : Option (Location × Json) :=
  let target := if document.isEmpty then some base else (base.join document).toOption
  target.bind fun l => if l == s.location then some (s.location, s.root) else s.store.find? l

/-- A reference by fragment alone, with whatever stands beside it. -/
def backEdge (pointer : String) : Json → Json
  | .obj ms => .obj (Members.insert ms "$ref" (.str ("#" ++ pointer)))
  | v => v

/-- How a reference is replaced: its place, its text and the object that holds it. -/
abbrev Follow := List String → String → Json → Inlined Json

mutual

/-- Inlines the references in a value that stands at a path. -/
def walk (follow : Follow) (path : List String) : Json → Inlined Json
  | .obj ms =>
    match (Json.obj ms).reference? with
    | some r => follow path r (.obj ms)
    | none =>
      let r := walkMembers follow path ms
      ⟨.obj r.value, r.findings⟩
  | .arr items =>
    let r := walkItems follow path 0 items
    ⟨.arr r.value, r.findings⟩
  | v => ⟨v, []⟩

def walkMembers (follow : Follow) (path : List String) : List (String × Json) → Inlined Members
  | [] => ⟨[], []⟩
  | (k, v) :: rest =>
    let first := walk follow (path ++ [k]) v
    let others := walkMembers follow path rest
    ⟨(k, first.value) :: others.value, first.findings ++ others.findings⟩

def walkItems (follow : Follow) (path : List String) (index : Nat) :
    List Json → Inlined (List Json)
  | [] => ⟨[], []⟩
  | v :: rest =>
    let first := walk follow (path ++ [toString index]) v
    let others := walkItems follow path (index + 1) rest
    ⟨first.value :: others.value, first.findings ++ others.findings⟩

end

/-- What stands for a reference that cannot be followed: itself, and a finding. -/
def refuse (s : Sources) (base : Location) (path : List String) (holder : Json)
    (message : String) : Inlined Json :=
  ⟨holder, [Reference.finding s.location base path message]⟩

/-- Replaces a reference met in the document at `base` while the targets in `stack` are being
inlined; `enter` inlines a value that is not. -/
def meet (s : Sources) (stack : List Target) (base : Location) (path : List String)
    (reference : String) (holder : Json) (enter : Target → Json → Inlined Json) : Inlined Json :=
  match s.find? base (Reference.document reference) with
  | none => ⟨holder, []⟩
  | some (location, document) =>
    let pointer := Reference.fragment reference
    if !pointer.isEmpty && pointer.toList.head? != some '/' then
      s.refuse base path holder
        ("unsupported fragment in '" ++ reference ++ "': only JSON pointers are resolved")
    else
      match document.pointer? pointer with
      | none => s.refuse base path holder ("'" ++ reference ++ "' does not point to a value")
      | some value =>
        let target : Target := ⟨location, pointer⟩
        if stack.any (· == target) then
          if location == s.location then ⟨backEdge pointer holder, []⟩
          else
            s.refuse base path holder
              ("circular reference '" ++ reference ++ "' inside a referenced document")
        else enter target value

/-- Replaces a reference, and the references in what takes its place. -/
def follow (s : Sources) : Nat → List Target → Location → Follow
  | 0, stack, base, path, reference, holder =>
    s.meet stack base path reference holder fun _ _ =>
      s.refuse base path holder ("'" ++ reference ++ "' leads too far")
  | fuel + 1, stack, base, path, reference, holder =>
    s.meet stack base path reference holder fun target value =>
      walk (follow s fuel (target :: stack) target.location) path value

/-- More targets than can be under way at a time: each is named by a reference. -/
def bound (s : Sources) : Nat :=
  s.store.foldl (fun n d => n + d.2.count) s.root.count

/-- The root document with its references inlined. -/
def inline (s : Sources) : Inlined Json := walk (s.follow s.bound [] s.location) [] s.root

end Sources
end MessageContract
