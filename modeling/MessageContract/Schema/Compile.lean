import MessageContract.Schema.Check

/-!
# Payload schemas

A payload schema is taken from a document, and its references by fragment alone lead into that
document. Before it is used, everything it refers to has to be there, the schema of schemas has to
accept it, and the keywords of all schemas that it reaches have to be readable.
-/

namespace MessageContract

mutual

/-- A schema with its references by fragment alone led into the document. -/
def rebase : Json → Json
  | .obj ms => .obj (rebaseMembers ms)
  | .arr items => .arr (rebaseItems items)
  | v => v

def rebaseMembers : List (String × Json) → Members
  | [] => []
  | (k, v) :: rest => (k, rebaseMember k v) :: rebaseMembers rest

def rebaseMember (k : String) : Json → Json
  | .str s => .str (if k == "$ref" && s.startsWith "#" then documentUri ++ s else s)
  | .obj ms => .obj (rebaseMembers ms)
  | .arr items => .arr (rebaseItems items)
  | v => v

def rebaseItems : List Json → List Json
  | [] => []
  | v :: rest => rebase v :: rebaseItems rest

end

/-- Why a payload schema cannot be used. -/
inductive CompileError
  | reference (error : ReferenceError)
  | value (cause : Cause) (value : Json)

def CompileError.message : CompileError → String
  | reference e => e.message
  | value cause v => cause.message v

/-- A payload schema that can be used. -/
structure CompiledSchema where
  schema : Json
  scope : Scope
  resources : Resources

namespace CompiledSchema

/-! ## The schema of schemas -/

def metaResource : Resource := ⟨Metaschema.Draft7.schema, .draft7⟩

def metaScope : Scope :=
  ⟨⟨((metaResource.base .unnamed).toOption).getD .unnamed, []⟩, metaResource.dialect, [], []⟩

/-- The first thing that the schema of schemas finds wrong. -/
def metaViolation? (schema : Json) : Option Violation :=
  match schema with
  | .bool _ => none
  | s =>
    let budget := Resources.standard.budget s
    (Resources.standard.violations budget metaScope metaResource.schema ⟨s, []⟩).head?

/-! ## Reachable schemas -/

/-- How a reference in a scope is told from others. -/
def sight (scope : Scope) (kind : ReferenceKind) (target : String) : String :=
  scope.view.base.write ++ " " ++ kind.keyword ++ " " ++ target

/-- Reads every schema that a schema reaches; `seen` are the references followed before. -/
def reach (r : Resources) : Nat → Scope → List String → Json → Except CompileError (List String)
  | 0, _, seen, _ => .ok seen
  | fuel + 1, scope, seen, schema =>
    match schema with
    | .bool _ => .ok seen
    | .obj ms =>
      let part (seen : List String) (p : Keyword.Part) : Except CompileError (List String) :=
        match scope.into p with
        | .error e => .error (.reference e)
        | .ok scope => reach r fuel scope seen p.schema
      let content (seen : List String) (c : Keyword.Content) : Except CompileError (List String) :=
        match c with
        | .error e => .error (.value e.cause e.value)
        | .ok p => part seen p
      let follow (seen : List String) (kind : ReferenceKind) (target : String) :
          Except CompileError (List String) :=
        let sight := sight scope kind target
        if seen.contains sight then .ok seen
        else
          match r.resolve scope kind target with
          | .error e => .error (.reference e)
          | .ok (scope, schema) => reach r fuel scope (sight :: seen) schema
      (scope.dialect.entries ms).foldlM (fun seen m =>
        match Keyword.read scope.dialect ms m.1 m.2 with
        | .ok (some (.reference kind target)) => follow seen kind target
        | _ => (Keyword.contents scope.dialect ms m.1 m.2).foldlM content seen) seen
    | v => .error (.value (.type [.boolean, .object]) v)

end CompiledSchema

/-- A payload schema from a document, ready for use. -/
def compileSchema (payload document : Json) : Except CompileError CompiledSchema := do
  let schema := rebase payload
  let resources ← (Resources.gather schema document).mapError .reference
  let base ← (Resources.nameOf schema).mapError .reference
  match CompiledSchema.metaViolation? schema with
  | some v => .error (.value v.cause v.spot.value)
  | none =>
    let resource : Resource := ⟨schema, .draft7⟩
    let view ← (Resources.Viewpoint.enter ⟨base, []⟩ resource).mapError .reference
    let scope : Scope := ⟨view, resource.dialect, [], []⟩
    let size := resources.count + 2
    let _ ← CompiledSchema.reach resources (size * size) scope [] schema
    return ⟨schema, scope, resources⟩

/-- The violations of a payload schema by a payload. -/
def CompiledSchema.violations (c : CompiledSchema) (payload : Json) : List Violation :=
  c.resources.violations (c.resources.budget payload) c.scope c.schema ⟨payload, []⟩

end MessageContract
