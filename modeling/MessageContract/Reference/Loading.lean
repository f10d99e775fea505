import MessageContract.Decode
import MessageContract.Fetch
import MessageContract.Reference.Basic

/-!
# Loading referenced documents

A worklist, first in first out: each location that a reference leads to is loaded once, and the
references in what was loaded are noted after it. What cannot be loaded is told and passed over.
-/

namespace MessageContract

/-- A location to be loaded, and the reference that asked for it. -/
structure Pending where
  target : Location
  referrer : Location
  path : List String

/-- An attempt to load a document. -/
structure Visit where
  target : Location
  loaded : Bool

/-- The state of the worklist. -/
structure Loading where
  seen : List Location
  queue : List Pending
  store : Documents
  findings : List Diagnostic
  visits : List Visit

namespace Loading

/-- Nothing is seen but the root document. -/
def start (root : Location) : Loading := ⟨[root], [], [], [], []⟩

/-- Notes a reference of the document at `base`. -/
def note (root base : Location) (s : Loading) (site : Reference.Site) : Loading :=
  let document := Reference.document site.reference
  if document.isEmpty then s
  else
    match base.join document with
    | .error e =>
      { s with findings := s.findings ++ [Reference.finding root base site.path e.message] }
    | .ok target =>
      if s.seen.any (· == target) then s
      else { s with seen := target :: s.seen, queue := s.queue ++ [⟨target, base, site.path⟩] }

/-- Notes all references of a document. -/
def noteAll (root base : Location) (s : Loading) (document : Json) : Loading :=
  (Reference.sites document).foldl (note root base) s

/-- The tree at a location, or what is in the way. -/
def tree (w : World) (settings : FetchSettings) (l : Location) : Except String Json :=
  match w.fetch settings l with
  | .error e => .error e.message
  | .ok text => (decode text).mapError DecodeError.message

/-- What is said of a document that is not there. -/
def failure (root : Location) (p : Pending) (reason : String) : Diagnostic :=
  Reference.finding root p.referrer p.path
    ("cannot load referenced document " ++ p.target.write ++ ": " ++ reason)

/-- Keeps a document that was loaded. -/
def keep (s : Loading) (target : Location) (document : Json) : Loading :=
  { s with store := s.store ++ [(target, document)], visits := s.visits ++ [⟨target, true⟩] }

/-- Records that a document is not there. -/
def miss (s : Loading) (target : Location) (finding : Diagnostic) : Loading :=
  { s with findings := s.findings ++ [finding], visits := s.visits ++ [⟨target, false⟩] }

/-- Loads one document. -/
def load (w : World) (settings : FetchSettings) (root : Location) (p : Pending) (s : Loading) :
    Loading :=
  match tree w settings p.target with
  | .ok v => (s.keep p.target v).noteAll root p.target v
  | .error reason => s.miss p.target (failure root p reason)

/-- Takes the first location from the queue. -/
def step (w : World) (settings : FetchSettings) (root : Location) (s : Loading) : Loading :=
  match s.queue with
  | [] => s
  | p :: rest => load w settings root p { s with queue := rest }

/-- Loads until the queue is empty; what a budget leaves over counts as not loaded. -/
def run (w : World) (settings : FetchSettings) (root : Location) : Nat → Loading → Loading
  | 0, s =>
    { s with queue := [],
             findings := s.findings ++ s.queue.map (failure root · "too many documents") }
  | budget + 1, s =>
    if s.queue.isEmpty then s else run w settings root budget (step w settings root s)

/-- More documents than any set of references is followed to. -/
def budget : Nat := Nat.pow 2 32

end Loading

/-- Loads what the document at `location` refers to, and what that refers to in turn. -/
def World.loadReferences (w : World) (settings : FetchSettings) (root : Json)
    (location : Location) : Loading :=
  Loading.run w settings location Loading.budget
    ((Loading.start location).noteAll location location root)

end MessageContract
