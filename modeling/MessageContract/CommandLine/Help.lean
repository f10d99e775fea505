import MessageContract.CommandLine.Basic

/-!
# Help

What a command does, how it is called, and what can be given to it, one line each.
-/

namespace MessageContract.CommandLine

/-- Fills a text with blanks up to a number of characters. -/
def pad (width : Nat) (s : String) : String :=
  s ++ String.ofList (List.replicate (width - s.length) ' ')

/-- What a parameter of a command is for. -/
def Parameter.about (c : Command) : Parameter → String
  | .file => "AsyncAPI document on disk (YAML or JSON)"
  | .url => "AsyncAPI document URL (http, https or file)"
  | .recommended => "Also run the recommended rules and report their warnings"
  | .message => "Message id or name to validate against"
  | .payload => "JSON payload file, or \x60-\x60 for stdin [default: -]"
  | .json => if c = .messages then "Emit the listing as JSON" else "Emit the report as JSON"
  | .verbose =>
    "Enable verbose output. Repeat for more verbosity (-v, -vv, -vvv). " ++
      "Ignored when RUST_LOG is set"
  | .logJson => "Write log lines as JSON objects"
  | .help => "Print help"
  | .version => "Print version"

namespace Command

def about : Command → String
  | program => "Validate message payloads against AsyncAPI documents"
  | validate => "Validate a JSON payload against a message of an AsyncAPI document"
  | messages => "List the messages an AsyncAPI document declares"
  | help => "Print this message or the help of the given subcommand(s)"

/-- How a command is called. -/
def usage : Command → String
  | program => "aapi [OPTIONS] <COMMAND>"
  | validate =>
    "aapi validate [OPTIONS] --message <KEY> <--file <PATH>|--url <URL>> [PAYLOAD]"
  | messages => "aapi messages [OPTIONS] <--file <PATH>|--url <URL>>"
  | help => "aapi help [COMMAND]..."

/-- A part of the help: a title over names and what is said of them. -/
abbrev Section := String × List (String × String)

private def commandSection (c : Command) : Section :=
  ("Commands", c.commands.map fun d => (d.name, d.about))

private def argumentSection (c : Command) : Section :=
  ("Arguments",
    if c = help then [("[COMMAND]...", "Print help for the subcommand(s)")]
    else if c.takesPayload then [(Parameter.payload.label, Parameter.payload.about c)]
    else [])

private def optionSection (c : Command) : Section :=
  ("Options", c.options.map fun p => (p.label, p.about c))

private def writeSection (s : Section) : String :=
  let width := s.2.foldl (fun n row => max n row.1.length) 0
  let rows := s.2.map fun (name, about) => "  " ++ pad width name ++ "  " ++ about ++ "\n"
  if s.2.isEmpty then "" else "\n" ++ s.1 ++ ":\n" ++ String.join rows

/-- The help of a command. -/
def helpText (c : Command) : String :=
  c.about ++ "\n\nUsage: " ++ c.usage ++ "\n" ++ writeSection (commandSection c) ++
    writeSection (argumentSection c) ++ writeSection (optionSection c)

end Command

/-- The program's name and version. -/
def versionText : String := "aapi 0.1.0\n"

end MessageContract.CommandLine
