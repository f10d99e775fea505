import MessageContract.Reference.Inline
import MessageContract.Reference.Loading
import MessageContract.Rules.Messages

/-!
# Parsing documents

Text is decoded, the version checked, references are loaded and inlined, and the rules run over the
result. A document comes out if and only if nothing is found that is an error.
-/

namespace MessageContract

/-- Which rules run, and which formats payloads may have. -/
structure ParseOptions where
  core : Bool
  recommended : Bool
  formats : Registry

/-- Core rules, and the formats of the default registry. -/
def ParseOptions.default : ParseOptions := ⟨true, false, .default⟩

/-- What a document is made from. -/
inductive Input
  | text (text : String)
  | json (value : Json)

/-- The result of parsing. -/
structure Parse where
  document : Option Document
  diagnostics : List Diagnostic
  /-- The documents that were loaded on the way. -/
  visits : List Visit
  /-- Whether the document got as far as the rules. -/
  judged : Bool

namespace Parse

/-- Nothing but one finding, made before anything is loaded. -/
def refused (d : Diagnostic) : Parse := ⟨none, [d], [], false⟩

/-- What a value is, in words. -/
def kind : Json → String
  | .null => "null"
  | .bool _ => "a boolean"
  | .num _ => "a number"
  | .str _ => "a string"
  | .arr _ => "a sequence"
  | .obj _ => "a mapping"

/-- The tree of an input. -/
def tree : Input → Except String Json
  | .json v => .ok v
  | .text t => (decode t).mapError DecodeError.message

/-- The root of a document: a mapping. -/
def root (input : Input) : Except String Json :=
  match tree input with
  | .error e => .error e
  | .ok v =>
    if v.isObject then .ok v else .error ("document root must be a mapping, found " ++ kind v)

/-- The result of the rules on a document with its references inlined; `found` are the findings
made before. -/
def judge (options : ParseOptions) (v : Version) (doc : Json) (found : List Diagnostic)
    (visits : List Visit) : Parse :=
  let structural := if options.core then Rules.core doc v else []
  let (messages, payloads) := Rules.extract doc options.formats options.core v
  let advice := if options.recommended then Rules.recommended doc else []
  let all := found ++ structural ++ payloads ++ advice
  let document := if all.any Diagnostic.isError then none else some ⟨v, doc, messages⟩
  ⟨document, all, visits, true⟩

/-- Parses what was read from a location. -/
def run (w : World) (settings : FetchSettings) (options : ParseOptions) (location : Location)
    (input : Input) : Parse :=
  match root input with
  | .error reason => refused (.error .uncaughtException reason [])
  | .ok raw =>
    match Rules.version raw with
    | .error d => refused d
    | .ok v =>
      let loaded := w.loadReferences settings raw location
      let inlined := Sources.inline ⟨raw, location, loaded.store⟩
      judge options v inlined.value (loaded.findings ++ inlined.findings) loaded.visits

end Parse

/-- Where a document is taken from. -/
inductive Source
  | file (path : FilePath)
  | url (text : String)
  | given (input : Input)

/-- The location of what a URL names. -/
def Url.location (u : Url) : Location :=
  match (if u.scheme == "file" then u.filePath? else none) with
  | some bytes => .ofPath ⟨bytes⟩
  | none => .url u

/-- What a source holds and the location it has. -/
def Source.read (w : World) (settings : FetchSettings) :
    Source → Except FetchError (Input × Location)
  | .given input => .ok (input, .inline)
  | .file path => (w.fetch settings (.file path)).map fun t => (.text t, .ofPath path)
  | .url text =>
    match Url.parse text with
    | .error e => .error (.url e)
    | .ok u => (w.fetchUrl settings u).map fun t => (.text t, u.location)

/-- Reads and parses a source. -/
def Source.parse (w : World) (settings : FetchSettings) (options : ParseOptions) (s : Source) :
    Except FetchError Parse :=
  (s.read w settings).map fun (input, location) => .run w settings options location input

end MessageContract
