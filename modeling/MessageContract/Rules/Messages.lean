import MessageContract.Document
import MessageContract.Rules.Core
import MessageContract.Schema.Compile
import MessageContract.SchemaFormat.Basic

/-!
# Messages of a document

Each declared message with its payload converted from the format it is written in. A payload that
cannot be converted, or is no schema, leaves its message out.
-/

namespace MessageContract.Rules

/-- What a message declares as its payload. -/
structure Declared where
  /-- The format, if one is named. -/
  format : Option String
  payload : Option Json
  /-- Where the format is named. -/
  formatPath : List String

/-- The format and the schema of an object that carries both. -/
def multiFormat? (payload : Json) : Option (String × Json) :=
  match payload.get? "schemaFormat", payload.get? "schema" with
  | some (.str format), some schema => some (format, schema)
  | _, _ => none

/-- The payload a message declares: in 2.x the format stands beside it, in 3.x inside it. -/
def declared (v : Version) (key : String) (message : Members) : Declared :=
  let payload := message.get? "payload"
  let path := messagePath key
  if v.isV3 then
    match payload.bind multiFormat? with
    | some (format, schema) => ⟨some format, some schema, path ++ ["payload", "schemaFormat"]⟩
    | none => ⟨none, payload, path ++ ["payload"]⟩
  else ⟨(message.get? "schemaFormat").bind Json.asString?, payload, path ++ ["schemaFormat"]⟩

/-- The id of a message. -/
def idOf (v : Version) (key : String) (message : Members) : String :=
  if v.isV2 then (messageId? (.obj message)).getD key else key

/-- The format of a payload: the declared one, or that of the version. -/
def formatOf (v : Version) (d : Declared) : String := d.format.getD v.defaultFormat

/-- The payload of a message as plain JSON Schema. -/
def convertPayload (formats : Registry) (v : Version) (key : String) (d : Declared) (raw : Json) :
    Except Diagnostic Json :=
  match formats.find? (formatOf v d) with
  | none =>
    .error (.error .schemaFormat ("Unknown schema format: \"" ++ formatOf v d ++ "\".")
      d.formatPath)
  | some f =>
    match f.convert raw with
    | .ok schema => .ok schema
    | .error reason =>
      .error (.error .schemaFormat
        ("Payload of message \"" ++ key ++ "\" could not be converted from " ++ f.name ++ ": " ++
          reason)
        (messagePath key ++ ["payload"]))

/-- Refuses a payload that is no schema. -/
def checkPayload (doc : Json) (key : String) (schema : Json) : Except Diagnostic Unit :=
  match compileSchema schema doc with
  | .ok _ => .ok ()
  | .error e =>
    .error (.error .payload
      ("Payload of message \"" ++ key ++ "\" is not a valid JSON Schema: " ++ e.message)
      (messagePath key ++ ["payload"]))

/-- The payload of a message, checked if the core rules ask for it. -/
def payload (doc : Json) (formats : Registry) (checked : Bool) (v : Version) (key : String)
    (d : Declared) : Except Diagnostic (Option Json) :=
  match d.payload with
  | none => .ok none
  | some raw =>
    match convertPayload formats v key d raw with
    | .error e => .error e
    | .ok schema =>
      if checked then (checkPayload doc key schema).map fun _ => some schema else .ok (some schema)

/-- A message from its declaration. -/
def buildMessage (doc : Json) (formats : Registry) (checked : Bool) (v : Version) (key : String)
    (message : Members) : Except Diagnostic Message :=
  let d := declared v key message
  (payload doc formats checked v key d).map fun schema =>
    ⟨key, idOf v key message, (message.get? "name").bind Json.asString?, formatOf v d, schema⟩

/-- The messages of a list of declarations, and what is wrong with the others. -/
def build (doc : Json) (formats : Registry) (checked : Bool) (v : Version) :
    List (String × Json) → List Message × List Diagnostic
  | [] => ([], [])
  | (key, .obj message) :: rest =>
    let (ms, ds) := build doc formats checked v rest
    match buildMessage doc formats checked v key message with
    | .ok m => (m :: ms, ds)
    | .error d => (ms, d :: ds)
  | _ :: rest => build doc formats checked v rest

/-- The messages of a document. -/
def extract (doc : Json) (formats : Registry) (checked : Bool) (v : Version) :
    List Message × List Diagnostic :=
  build doc formats checked v (messages doc)

end MessageContract.Rules
