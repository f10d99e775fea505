import MessageContract.Document
import MessageContract.Schema.Report
import MessageContract.Yaml.ToJson

/-!
# Validating payloads

A payload is checked against the schema of the first message whose id or name is the key. A message
without a payload schema takes any payload.
-/

namespace MessageContract

/-- Why a payload is not accepted. -/
inductive ValidateError
  | messageNotFound (key : String)
  | invalid (key : String) (records : List Record)
  | schemaCompile (key : String) (error : CompileError)

namespace ValidateError

def message : ValidateError → String
  | messageNotFound _ => "No messages found for the given key"
  | invalid _ records => Record.summary records
  | schemaCompile key e =>
    "payload schema of message '" ++ key ++ "' could not be compiled: " ++ e.message

def key : ValidateError → String
  | messageNotFound key => key
  | invalid key _ => key
  | schemaCompile key _ => key

def records : ValidateError → List Record
  | invalid _ records => records
  | _ => []

end ValidateError

/-- The record of a payload that has no JSON form. -/
def Record.notJson (e : Yaml.PayloadError) : Record :=
  ⟨"", "", "serialize", "cannot be represented as JSON: " ++ e.message⟩

namespace Document

/-- Checks a payload against a schema of the document. -/
def check (d : Document) (key : String) (schema payload : Json) : Except ValidateError Unit :=
  match compileSchema schema d.json with
  | .error e => .error (.schemaCompile key e)
  | .ok c =>
    match c.records schema payload with
    | [] => .ok ()
    | records => .error (.invalid key records)

/-- Checks a payload against the message with a key. -/
def validate (d : Document) (key : String) (payload : Json) : Except ValidateError Unit :=
  match d.find? key with
  | none => .error (.messageNotFound key)
  | some m => d.check key (m.payload.getD (.obj [])) payload

/-- Checks a payload that has first to be brought into JSON form. -/
def validateYaml (d : Document) (key : String) (payload : Yaml) : Except ValidateError Unit :=
  match payload.represent with
  | .error e => .error (.invalid key [.notJson e])
  | .ok j => d.validate key j

end Document
end MessageContract
