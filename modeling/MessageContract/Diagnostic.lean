/-!
# Diagnostics

What is found wrong in a document: a code, a message, a severity and the path to the place. The
code of the first finding tells apart input that is no document at all.
-/

namespace MessageContract

/-- The kinds of findings. -/
inductive Code
  /-- The input is no document at all. -/
  | uncaughtException
  /-- The `asyncapi` field is missing, no string, or names a version that is not supported. -/
  | isAsyncApi
  | info
  | channels
  | components
  /-- A payload is neither an object nor a boolean. -/
  | messagePayload
  /-- Two messages share a `messageId`. -/
  | messageIdUniqueness
  /-- A schema format is unknown, or a payload cannot be converted from it. -/
  | schemaFormat
  /-- A payload is no valid JSON Schema. -/
  | payload
  /-- A reference cannot be resolved. -/
  | invalidRef
  | infoDescription
  | infoContact
  deriving DecidableEq, Repr

namespace Code

/-- All codes. -/
def all : List Code :=
  [uncaughtException, isAsyncApi, info, channels, components, messagePayload, messageIdUniqueness,
    schemaFormat, payload, invalidRef, infoDescription, infoContact]

def write : Code → String
  | uncaughtException => "uncaught exception"
  | isAsyncApi => "asyncapi-is-asyncapi"
  | info => "asyncapi-info"
  | channels => "asyncapi-channels"
  | components => "asyncapi-components"
  | messagePayload => "asyncapi-message-payload"
  | messageIdUniqueness => "asyncapi2-message-messageId-uniqueness"
  | schemaFormat => "asyncapi-schema-format"
  | payload => "asyncapi-payload"
  | invalidRef => "invalid-ref"
  | infoDescription => "asyncapi-info-description"
  | infoContact => "asyncapi-info-contact"

def isFatal (c : Code) : Bool := c = uncaughtException

end Code

inductive Severity
  | error
  | warning
  deriving DecidableEq, Repr

def Severity.write : Severity → String
  | error => "error"
  | warning => "warning"

/-- A finding. -/
structure Diagnostic where
  code : Code
  message : String
  severity : Severity
  path : List String
  /-- The document the finding belongs to, unless that is the root document. -/
  source : Option String
  deriving DecidableEq, Repr

namespace Diagnostic

def error (code : Code) (message : String) (path : List String) : Diagnostic :=
  ⟨code, message, .error, path, none⟩

def warning (code : Code) (message : String) (path : List String) : Diagnostic :=
  ⟨code, message, .warning, path, none⟩

def isError (d : Diagnostic) : Bool := d.severity = .error

/-- The path as text. -/
def pointer (d : Diagnostic) : String :=
  if d.path.isEmpty then "(root)" else "/" ++ String.intercalate "/" d.path

def write (d : Diagnostic) : String :=
  d.code.write ++ " " ++ d.pointer ++ ": " ++ d.message ++
    (d.source.map fun s => " (" ++ s ++ ")").getD ""

end Diagnostic
end MessageContract
