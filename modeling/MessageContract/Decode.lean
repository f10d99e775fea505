import MessageContract.Json.Reader
import MessageContract.Text.Blank
import MessageContract.Yaml.Load
import MessageContract.Yaml.ToJson

/-!
# Reading documents

A text that opens with a brace or a bracket is JSON, any other text is YAML.
-/

namespace MessageContract

/-- Why a text is no document. -/
inductive DecodeError
  | json (error : Json.ReadError)
  | yaml (error : Yaml.LoadError)
  | notJson (error : Yaml.JsonError)

def DecodeError.message : DecodeError → String
  | json e => "invalid JSON: " ++ e.message
  | yaml e => "invalid YAML: " ++ e.message
  | notJson e => "invalid YAML: " ++ e.message

/-- Whether a text without blanks in front is read as JSON. -/
def opensJson (text : String) : Bool :=
  match text.toList with
  | '\x7b' :: _ => true
  | '[' :: _ => true
  | _ => false

/-- The tree that a text describes. -/
def decode (text : String) : Except DecodeError Json :=
  let trimmed := dropBlanks text
  if opensJson trimmed then (Json.read trimmed).mapError .json
  else
    match Yaml.load text with
    | .error e => .error (.yaml e)
    | .ok y => y.toJson.mapError .notJson

end MessageContract
