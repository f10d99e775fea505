/-!
# Commands and options

The command line `aapi`: its commands, what each of them takes, and how all of that is described in
the help.
-/

namespace MessageContract.CommandLine

inductive Command
  /-- No command yet. -/
  | program
  | validate
  | messages
  | help
  deriving DecidableEq, Repr

/-- What can be given to a command. -/
inductive Parameter
  | file
  | url
  | recommended
  | message
  | payload
  | json
  | verbose
  | logJson
  | help
  | version
  deriving DecidableEq, Repr

namespace Parameter

/-- The name behind `--`; the payload stands alone. -/
def long? : Parameter → Option String
  | file => some "file"
  | url => some "url"
  | recommended => some "recommended"
  | message => some "message"
  | payload => none
  | json => some "json"
  | verbose => some "verbose"
  | logJson => some "log-json"
  | help => some "help"
  | version => some "version"

/-- The letter behind `-`. -/
def short? : Parameter → Option Char
  | message => some 'm'
  | verbose => some 'v'
  | help => some 'h'
  | version => some 'V'
  | _ => none

/-- What the value of an option is called. -/
def value? : Parameter → Option String
  | file => some "PATH"
  | url => some "URL"
  | message => some "KEY"
  | _ => none

/-- How a parameter is shown. -/
def write (p : Parameter) : String :=
  match p.long? with
  | none => "[PAYLOAD]"
  | some name =>
    "--" ++ name ++ match p.value? with
      | some v => " <" ++ v ++ ">"
      | none => if p = verbose then "..." else ""

/-- Whether the value is a path, which is never empty. -/
def isPath : Parameter → Bool
  | file => true
  | payload => true
  | _ => false

/-- How a parameter is listed. -/
def label (p : Parameter) : String :=
  match p.long? with
  | none => p.write
  | some _ =>
    (match p.short? with
      | some c => "-" ++ String.ofList [c] ++ ", "
      | none => "    ") ++ p.write

end Parameter

namespace Command

/-- The commands below a command. -/
def commands : Command → List Command
  | program => [validate, messages, help]
  | _ => []

def name : Command → String
  | program => "aapi"
  | validate => "validate"
  | messages => "messages"
  | help => "help"

/-- The command of a name below a command. -/
def command? (c : Command) (name : String) : Option Command :=
  c.commands.find? (·.name == name)

/-- The options of a command, as they are listed. -/
def options : Command → List Parameter
  | program => [.verbose, .logJson, .help, .version]
  | validate =>
    [.file, .verbose, .logJson, .url, .recommended, .message, .json, .help]
  | messages => [.file, .verbose, .logJson, .url, .recommended, .json, .help]
  | help => []

/-- Whether a payload can follow. -/
def takesPayload (c : Command) : Bool := c = validate

/-- The option of a name. -/
def long? (c : Command) (name : String) : Option Parameter :=
  c.options.find? (·.long? == some name)

/-- The option of a letter. -/
def short? (c : Command) (letter : Char) : Option Parameter :=
  c.options.find? (·.short? == some letter)

end Command
end MessageContract.CommandLine
