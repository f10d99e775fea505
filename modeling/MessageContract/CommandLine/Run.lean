import MessageContract.CommandLine.Arguments
import MessageContract.CommandLine.Report
import MessageContract.Json.Reader
import MessageContract.Log

/-!
# Running the command line

A call reads the payload first, if it takes one, and then the document. It ends with a report, or
with 2 if something cannot be read.
-/

namespace MessageContract.CommandLine

/-- What a call does. -/
structure Outcome where
  exitCode : Nat
  output : String
  errors : String
  log : List Event

/-- Why there is no report. -/
inductive Failure
  | input (error : IoError)
  | payloadFile (path : String) (error : IoError)
  | payloadJson (error : Json.ReadError)
  | document (error : FetchError)

def Failure.message : Failure → String
  | input e => "failed to read payload from stdin: " ++ e.message
  | payloadFile path e => "failed to read payload " ++ path ++ ": " ++ e.message
  | payloadJson e => "payload is not valid JSON: " ++ e.message
  | document e => "failed to read AsyncAPI document: " ++ e.fullMessage

/-- The text of a payload: that of a file, or what is at hand as input for `-`. -/
def payloadText (w : World) (input : List UInt8) (path : String) : Except Failure String :=
  if path = "-" then
    match Utf8.decode? input with
    | some s => .ok s
    | none => .error (.input .notUtf8)
  else (w.readText (.ofString path)).mapError (.payloadFile path)

def payload (w : World) (input : List UInt8) (path : String) : Except Failure Json :=
  match payloadText w input path with
  | .error e => .error e
  | .ok text => (Json.read text).mapError .payloadJson

namespace Origin

def source : Origin → Source
  | file path => .file (.ofString path)
  | url text => .url text

def write : Origin → String
  | file path => path
  | url text => text

end Origin

/-- Core rules, and the recommended ones if they are asked for. -/
def Call.options (c : Call) : ParseOptions :=
  { ParseOptions.default with recommended := c.recommended }

/-- The report on a document that is not refused. -/
def Call.report (c : Call) (w : World) (settings : FetchSettings) (judge : Document → Report) :
    Except Failure Report :=
  match c.origin.source.resolve w settings c.options with
  | .ok d => .ok (judge d)
  | .error (.fetch e) => .error (.document e)
  | .error e => .ok (.rejected e.message e.diagnostics)

/-- What is known when a call ends. -/
def Call.finish (c : Call) (log : List Event) : Except Failure Report → Outcome
  | .ok r => ⟨r.exitCode, r.write c.json, "", log⟩
  | .error e => ⟨2, "", "error: " ++ e.message ++ "\n", log ++ [.failed e.message]⟩

/-- Checks a payload against the message with a key. -/
def Call.validate (c : Call) (w : World) (settings : FetchSettings) (key : String)
    (payload : Json) : Outcome :=
  let r := c.report w settings fun d => .ofValidation key (d.validate key payload)
  let search := match r with
    | .ok (.messageNotFound _ _) => [Event.noMessage key]
    | _ => []
  c.finish (.validating c.origin.write key ::
    c.origin.source.events w settings c.options ++ search) r

def Call.run (c : Call) (w : World) (settings : FetchSettings) (input : List UInt8) : Outcome :=
  match c.task with
  | .messages =>
    c.finish (c.origin.source.events w settings c.options) (c.report w settings .resolved)
  | .validate key path =>
    match payload w input path with
    | .error e => c.finish [] (.error e)
    | .ok p => c.validate w settings key p

/-- What is said of arguments that make up no call. -/
private def complaint (c : Command) (e : UsageError) : String :=
  "error: " ++ e.message ++ "\n\nUsage: " ++ c.usage ++ "\n\nFor more information, try '--help'.\n"

def Stop.outcome : Stop → Outcome
  | .help c => ⟨0, c.helpText, "", []⟩
  | .version => ⟨0, versionText, "", []⟩
  | .nothing => ⟨2, "", Command.program.helpText, []⟩
  | .usage c e => ⟨2, "", complaint c e, []⟩

/-- Runs the program on its arguments. -/
def run (w : World) (settings : FetchSettings) (input : List UInt8) (arguments : List String) :
    Outcome :=
  match read arguments with
  | .ok c => c.run w settings input
  | .error stop => stop.outcome

end MessageContract.CommandLine
