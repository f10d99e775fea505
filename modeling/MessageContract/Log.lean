import MessageContract.Json.Basic
import MessageContract.Resolve

/-!
# The log

What happens on the way to a document, in order: what is read, what is found, how it ends. The log
follows from the results; no result depends on it.
-/

namespace MessageContract

inductive Level
  | error
  | warn
  | info
  | debug
  deriving DecidableEq, Repr

namespace Level

def write : Level → String
  | error => "ERROR"
  | warn => "WARN"
  | info => "INFO"
  | debug => "DEBUG"

/-- How much has to be asked for to see a level. -/
def verbosity : Level → Nat
  | error => 0
  | warn => 0
  | info => 1
  | debug => 2

end Level

/-- Something that happens. -/
inductive Event
  | validating (source key : String)
  | reading (path : String)
  | fetching (url : String)
  | parsing (location : String)
  | loaded (location : String)
  | advice (finding : Diagnostic)
  /-- The rules found errors. -/
  | condemned (count : Nat) (location : String)
  | resolved (document : Document)
  /-- There is no document; the first finding says why. -/
  | refused (first : Diagnostic) (total : Nat)
  | noMessage (key : String)
  | failed (message : String)

namespace Event

def level : Event → Level
  | advice _ => .warn
  | resolved _ => .info
  | failed _ => .error
  | _ => .debug

/-- What is told of an event. The key of a message is told in place of a text. -/
def fields : Event → Members
  | validating source key => [("message", .str key), ("source", .str source)]
  | reading path => [("message", .str "reading document"), ("path", .str path)]
  | fetching url => [("message", .str "fetching document"), ("url", .str url)]
  | parsing l => [("message", .str "parsing AsyncAPI document"), ("location", .str l)]
  | loaded l => [("message", .str "loaded referenced document"), ("location", .str l)]
  | advice d =>
    [("message", .str d.message), ("code", .str d.code.write), ("path", .str d.pointer)]
  | condemned n l =>
    [("message", .str "document rejected"), ("location", .str l), ("count", .int n)]
  | resolved d =>
    [("message", .str "AsyncAPI document resolved"), ("version", .str d.version.write),
      ("title", .str (d.title.getD "")), ("messages", .int d.messages.length)]
  | refused d n =>
    [("message", .str "document rejected"), ("code", .str d.code.write), ("total", .int n)]
  | noMessage key => [("message", .str "no message matches key"), ("key", .str key)]
  | failed m => [("message", .str m)]

def json (e : Event) : Json := .obj [("level", .str e.level.write), ("fields", .obj e.fields)]

end Event

/-! ## What leads to a document -/

/-- Fetching what a URL names; a file that is not on this machine is not asked for. -/
def Url.fetchEvents (u : Url) : List Event :=
  if u.scheme == "file" then
    (u.filePath?.map fun bytes => Event.reading (FilePath.write ⟨bytes⟩)).toList
  else [.fetching u.write]

/-- Fetching what is at a location. -/
def Location.fetchEvents : Location → List Event
  | .file path => [.reading path.write]
  | .url u => u.fetchEvents
  | .inline => []

/-- Loading a referenced document. -/
def Visit.events (v : Visit) : List Event :=
  v.target.fetchEvents ++ if v.loaded then [.loaded v.target.write] else []

/-- Parsing what was read from a location. -/
def Parse.events (p : Parse) (location : Location) : List Event :=
  let warnings := p.diagnostics.filter fun d => !d.isError
  let verdict :=
    if p.judged && p.document.isNone then
      [Event.condemned p.diagnostics.length location.write]
    else []
  [.parsing location.write] ++ p.visits.flatMap Visit.events ++ warnings.map .advice ++ verdict

/-- How a parse ends. -/
def Parse.ending (p : Parse) : List Event :=
  match p.document, p.diagnostics with
  | some d, _ => [.resolved d]
  | none, first :: rest => [.refused first (rest.length + 1)]
  | none, [] => []

namespace Source

/-- Fetching a source. -/
def fetchEvents : Source → List Event
  | .given _ => []
  | .file path => [.reading path.write]
  | .url text =>
    match Url.parse text with
    | .ok u => u.fetchEvents
    | .error _ => []

/-- All that happens when a source is resolved. -/
def events (s : Source) (w : World) (settings : FetchSettings) (options : ParseOptions) :
    List Event :=
  match settings.check with
  | .error _ => []
  | .ok () =>
    s.fetchEvents ++
      match s.read w settings with
      | .error _ => []
      | .ok (input, location) =>
        let p := Parse.run w settings options location input
        p.events location ++ p.ending

end Source
end MessageContract
