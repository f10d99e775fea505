import MessageContract.Parse

/-!
# Resolving a document

A document is resolved or refused. A refusal is a failure to fetch, or what was found in the
document, told apart by the first finding.
-/

namespace MessageContract

inductive ResolveError
  | fetch (error : FetchError)
  | notAsyncApi (diagnostics : List Diagnostic)
  | governance (diagnostics : List Diagnostic)

namespace ResolveError

def message : ResolveError → String
  | fetch e => e.message
  | notAsyncApi _ => "Your schema is not an AsyncAPI schema."
  | governance _ => "Your schema and/or referenced documents have governance issues."

def diagnostics : ResolveError → List Diagnostic
  | fetch _ => []
  | notAsyncApi ds => ds
  | governance ds => ds

/-- The refusal of a document in which something was found. -/
def ofDiagnostics (ds : List Diagnostic) : ResolveError :=
  match ds with
  | d :: _ => if d.code.isFatal then .notAsyncApi ds else .governance ds
  | [] => .governance []

end ResolveError

/-- The document of a parse. -/
def Parse.resolve (p : Parse) : Except ResolveError Document :=
  match p.document with
  | some d => .ok d
  | none => .error (.ofDiagnostics p.diagnostics)

/-- Whether requests can be made with the settings. -/
def FetchSettings.check (s : FetchSettings) : Except FetchError Unit :=
  if s.isSendable then .ok () else .error (.http .badAgent)

/-- Reads, parses and resolves a source. -/
def Source.resolve (w : World) (settings : FetchSettings) (options : ParseOptions) (s : Source) :
    Except ResolveError Document :=
  match settings.check with
  | .error e => .error (.fetch e)
  | .ok () =>
    match s.parse w settings options with
    | .error e => .error (.fetch e)
    | .ok p => p.resolve

end MessageContract
