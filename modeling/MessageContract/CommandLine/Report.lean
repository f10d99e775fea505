import MessageContract.CommandLine.Help
import MessageContract.Json.Printer
import MessageContract.Resolve
import MessageContract.Validate

/-!
# Reports

What a call found out, as lines for a reader or as indented JSON. A call ends with 0 if all is
well and with 1 if not.
-/

namespace MessageContract

/-- A finding as JSON. -/
def Diagnostic.json (d : Diagnostic) : Json :=
  .obj ([("code", .str d.code.write), ("message", .str d.message),
      ("severity", .str d.severity.write), ("path", .arr (d.path.map .str))] ++
    (d.source.map fun s => ("source", .str s)).toList)

/-- A record as JSON. -/
def Record.json (r : Record) : Json :=
  .obj [("instance_path", .str r.instancePath), ("schema_path", .str r.schemaPath),
    ("keyword", .str r.keyword), ("message", .str r.message)]

namespace CommandLine

/-- What a call found out. -/
inductive Report
  | valid (key : String)
  | invalid (key : String) (records : List Record)
  | messageNotFound (key error : String)
  | schemaError (key error : String)
  | resolved (document : Document)
  | rejected (error : String) (diagnostics : List Diagnostic)

namespace Report

/-- The report on a payload. -/
def ofValidation (key : String) : Except ValidateError Unit → Report
  | .ok () => valid key
  | .error (.invalid _ records) => invalid key records
  | .error (.messageNotFound k) => messageNotFound key (ValidateError.messageNotFound k).message
  | .error (.schemaCompile k e) => schemaError key (ValidateError.schemaCompile k e).message

def exitCode : Report → Nat
  | valid _ => 0
  | resolved _ => 0
  | _ => 1

/-! ## For readers -/

private def lines (ls : List String) : String := String.join (ls.map (· ++ "\n"))

private def messageLine (m : Message) : String :=
  "  " ++ pad 24 m.key ++ " id=" ++ pad 24 m.id ++ " name=" ++ pad 24 (m.name.getD "-") ++ " " ++
    if m.payload.isSome then m.schemaFormat else "(no payload)"

def text : Report → String
  | valid key => lines ["valid: payload conforms to message '" ++ key ++ "'"]
  | invalid key records => lines ["INVALID (" ++ key ++ "): " ++ Record.summary records]
  | messageNotFound key error => lines ["ERROR (" ++ key ++ "): " ++ error]
  | schemaError key error => lines ["ERROR (" ++ key ++ "): " ++ error]
  | resolved d =>
    lines ((d.title.getD "untitled" ++ " (AsyncAPI " ++ d.version.write ++ "): " ++
      toString d.messages.length ++ " message(s)") :: d.messages.map messageLine)
  | rejected error ds => lines (("REJECTED: " ++ error) :: ds.map fun d => "  " ++ d.write)

/-! ## As JSON -/

private def optional : Option String → Json
  | some s => .str s
  | none => .null

private def summary (m : Message) : Json :=
  .obj [("key", .str m.key), ("id", .str m.id), ("name", optional m.name),
    ("schema_format", .str m.schemaFormat), ("has_payload", .bool m.payload.isSome)]

private def status (name : String) (more : Members) : Json := .obj (("status", .str name) :: more)

def json : Report → Json
  | valid key => status "valid" [("message", .str key)]
  | invalid key records =>
    status "invalid" [("message", .str key), ("summary", .str (Record.summary records)),
      ("errors", .arr (records.map Record.json))]
  | messageNotFound key error =>
    status "message_not_found" [("message", .str key), ("error", .str error)]
  | schemaError key error => status "schema_error" [("message", .str key), ("error", .str error)]
  | resolved d =>
    status "resolved" [("version", .str d.version.write), ("title", optional d.title),
      ("messages", .arr (d.messages.map summary))]
  | rejected error ds =>
    status "rejected" [("error", .str error), ("diagnostics", .arr (ds.map Diagnostic.json))]

/-- The report in one of its two forms. -/
def write (asJson : Bool) (r : Report) : String :=
  if asJson then r.json.pretty ++ "\n" else r.text

end Report
end CommandLine
end MessageContract
