import MessageContract.CommandLine.Help

/-!
# Reading arguments

Arguments are read from left to right. An option may wait for its value; what waits is settled
before the next option counts, and only then is it checked. Behind `--` nothing is an option.
-/

namespace MessageContract.CommandLine

/-- Why arguments do not make up a call. -/
inductive UsageError
  | missingValue (p : Parameter)
  | surplusValue (value : String) (p : Parameter)
  | repeated (p : Parameter)
  | conflict (first second : Parameter)
  | unexpected (argument : String)
  | unknownCommand (name : String)
  | noCommand
  | incomplete (missing : List String)
  deriving DecidableEq, Repr

def UsageError.message : UsageError → String
  | missingValue p => "a value is required for '" ++ p.write ++ "' but none was supplied"
  | surplusValue v p =>
    "unexpected value '" ++ v ++ "' for '" ++ p.write ++ "' found; no more were expected"
  | repeated p => "the argument '" ++ p.write ++ "' cannot be used multiple times"
  | conflict p q => "the argument '" ++ p.write ++ "' cannot be used with '" ++ q.write ++ "'"
  | unexpected a => "unexpected argument '" ++ a ++ "' found"
  | unknownCommand n => "unrecognized subcommand '" ++ n ++ "'"
  | noCommand => "'aapi' requires a subcommand but one was not provided"
  | incomplete missing =>
    "the following required arguments were not provided:" ++
      String.join (missing.map ("\n  " ++ ·))

/-- What is done in place of a call. -/
inductive Stop
  | help (c : Command)
  | version
  /-- Nothing was asked for. -/
  | nothing
  | usage (c : Command) (e : UsageError)
  deriving DecidableEq, Repr

/-! ## Words -/

/-- What an argument looks like. -/
inductive Word
  | escape
  | long (name : String) (value : Option String)
  | short (letters : List Char)
  | plain

/-- The name of a long option, and the value behind its `=`. -/
private def longWord (cs : List Char) : Word :=
  let name := String.ofList (cs.takeWhile (· != '='))
  match cs.dropWhile (· != '=') with
  | [] => .long name none
  | _ :: value => .long name (some (String.ofList value))

def Word.ofArgument (argument : String) : Word :=
  match argument.toList with
  | ['-', '-'] => .escape
  | '-' :: '-' :: cs => longWord cs
  | ['-'] => .plain
  | '-' :: cs => .short cs
  | _ => .plain

/-! ## What was given -/

/-- A parameter for which a value is awaited or has come. -/
structure Waiting where
  parameter : Parameter
  value : Option String

/-- What was given so far, in order of first appearance. -/
structure Given where
  values : List (Parameter × String)
  verbosity : Nat
  waiting : Option Waiting
  /-- Whether `--` was seen. -/
  escaped : Bool
  /-- Whether there is a payload. -/
  filled : Bool

namespace Given

/-- Nothing was given. -/
def empty : Given := ⟨[], 0, none, false, false⟩

def value? (g : Given) (p : Parameter) : Option String := (g.values.find? (·.1 == p)).map (·.2)

def has (g : Given) (p : Parameter) : Bool := (g.value? p).isSome

/-- Whether an option still waits for its value. -/
def isOpen (g : Given) : Bool :=
  match g.waiting with
  | some w => w.value.isNone
  | none => false

/-- Notes a parameter with its value. -/
def enter (g : Given) (p : Parameter) (value : String) : Except UsageError Given :=
  if g.has p then .error (.repeated p)
  else if p.isPath && value.isEmpty then .error (.missingValue p)
  else .ok { g with values := g.values ++ [(p, value)] }

/-- Notes what waits. -/
def settle (g : Given) : Except UsageError Given :=
  match g.waiting with
  | none => .ok g
  | some ⟨p, some v⟩ => enter { g with waiting := none } p v
  | some ⟨p, none⟩ => .error (.missingValue p)

/-- Lets a parameter wait. -/
def await (g : Given) (p : Parameter) (value : Option String) : Except UsageError Given :=
  g.settle.map fun g => { g with waiting := some ⟨p, value⟩ }

/-- Notes an option that stands with its value. -/
def attach (g : Given) (p : Parameter) (value : String) : Except UsageError Given :=
  match g.settle with
  | .error e => .error e
  | .ok g => g.enter p value

end Given

/-! ## Reading -/

/-- What reading goes on with, or what is done in place of it. -/
abbrev Read := Except Stop Given

private def refuse (c : Command) (r : Except UsageError Given) : Read := r.mapError (.usage c)

/-- Notes an option without value. -/
def raise (c : Command) (g : Given) (p : Parameter) : Read :=
  match g.settle with
  | .error e => .error (.usage c e)
  | .ok g =>
    match p with
    | .help => .error (.help c)
    | .version => .error .version
    | .verbose => .ok { g with verbosity := min (g.verbosity + 1) 255 }
    | p => refuse c (g.enter p "true")

/-- Reads a long option. -/
def readLong (c : Command) (g : Given) (name : String) (value : Option String) : Read :=
  match c.long? name with
  | none => .error (.usage c (.unexpected ("--" ++ name)))
  | some p =>
    match p.value?, value with
    | some _, some v => refuse c (g.attach p v)
    | some _, none => refuse c (g.await p none)
    | none, some v => .error (.usage c (.surplusValue v p))
    | none, none => raise c g p

/-- The value that stands behind a letter, with or without `=`. -/
def behindLetter : List Char → Option String
  | [] => none
  | '=' :: cs => some (String.ofList cs)
  | cs => some (String.ofList cs)

/-- Reads letters that stand together; behind one that takes a value all is value. -/
def readLetters (c : Command) : Given → List Char → Read
  | g, [] => .ok g
  | g, letter :: rest =>
    match c.short? letter with
    | none => .error (.usage c (.unexpected ("-" ++ String.ofList [letter])))
    | some p =>
      match p.value?, behindLetter rest with
      | some _, some v => refuse c (g.attach p v)
      | some _, none => refuse c (g.await p none)
      | none, _ =>
        match raise c g p with
        | .ok g => readLetters c g rest
        | .error stop => .error stop

/-- Reads an argument that is no option. -/
def readPlain (c : Command) (g : Given) (argument : String) : Read :=
  match g.waiting, g.escaped with
  | some ⟨p, none⟩, false => .ok { g with waiting := some ⟨p, some argument⟩ }
  | _, _ =>
    if c.takesPayload && !g.filled then
      (refuse c (g.await .payload (some argument))).map fun g => { g with filled := true }
    else .error (.usage c (.unexpected argument))

/-- Reads an argument. -/
def readArgument (c : Command) (g : Given) (argument : String) : Read :=
  if g.escaped then readPlain c g argument
  else
    match Word.ofArgument argument with
    | .escape => .ok { g with escaped := true }
    | .long name value => readLong c g name value
    | .short letters => readLetters c g letters
    | .plain => readPlain c g argument

/-- Reads the arguments of a command. -/
def readArguments (c : Command) : Given → List String → Read
  | g, [] => refuse c g.settle
  | g, a :: rest =>
    match readArgument c g a with
    | .ok g => readArguments c g rest
    | .error stop => .error stop

/-- The command that help is asked for. -/
def readHelp : Command → List String → Stop
  | c, [] => .help c
  | c, a :: rest =>
    match c.command? a with
    | some d => readHelp d rest
    | none => .usage c (.unknownCommand a)

/-! ## Calls -/

/-- Where the document is. -/
inductive Origin
  | file (path : String)
  | url (url : String)
  deriving DecidableEq, Repr

/-- What is to be done. -/
inductive Task
  | validate (key payload : String)
  | messages
  deriving DecidableEq, Repr

/-- A call. -/
structure Call where
  task : Task
  origin : Origin
  recommended : Bool
  json : Bool
  logJson : Bool
  verbosity : Nat
  deriving DecidableEq, Repr

/-- The option for the document that was given first, and the other one, if both were. -/
private def conflict? (g : Given) : Option UsageError :=
  match g.values.map (·.1) |>.filter (fun p => p = .file || p = .url) with
  | p :: q :: _ => some (.conflict p q)
  | _ => none

private def origin? (g : Given) : Option Origin :=
  match g.value? .file, g.value? .url with
  | some path, _ => some (.file path)
  | none, some url => some (.url url)
  | none, none => none

private def originUsage : String := "<--file <PATH>|--url <URL>>"

/-- What a call has to have and does not. -/
private def missing (c : Command) (g : Given) : List String :=
  (if c = .validate && !g.has .message then [Parameter.message.write] else []) ++
    (if (origin? g).isNone then [originUsage] else [])

/-- The task of a command. -/
private def task (c : Command) (g : Given) : Task :=
  if c = .validate then
    .validate ((g.value? .message).getD "") ((g.value? .payload).getD "-")
  else .messages

/-- The call that was given to a command; `outer` was given before the command. -/
def call (c : Command) (outer g : Given) : Except UsageError Call :=
  match conflict? g, origin? g with
  | some e, _ => .error e
  | none, some o =>
    if (missing c g).isEmpty then
      .ok ⟨task c g, o, g.has .recommended, g.has .json, g.has .logJson || outer.has .logJson,
        if g.verbosity = 0 then outer.verbosity else g.verbosity⟩
    else .error (.incomplete (missing c g))
  | none, none => .error (.incomplete (missing c g))

/-- Whether nothing was given. -/
private def isBare (g : Given) : Bool := g.values.isEmpty && g.verbosity = 0

/-- Reads what follows the program's name; `g` was given so far. -/
def readProgram : Given → List String → Except Stop Call
  | g, [] => .error (if isBare g then .nothing else .usage .program .noCommand)
  | g, a :: rest =>
    match if g.escaped then none else Command.program.command? a with
    | some .help => .error (readHelp .program rest)
    | some c =>
      match readArguments c .empty rest with
      | .ok h => (call c g h).mapError (.usage c)
      | .error stop => .error stop
    | none =>
      match g.escaped, Word.ofArgument a with
      | false, .escape => readProgram { g with escaped := true } rest
      | false, .long name value =>
        match readLong .program g name value with
        | .ok g => readProgram g rest
        | .error stop => .error stop
      | false, .short letters =>
        match readLetters .program g letters with
        | .ok g => readProgram g rest
        | .error stop => .error stop
      | escaped, _ =>
        .error (.usage .program
          (if escaped && (Command.program.command? a).isSome then .unexpected a
          else .unknownCommand a))

/-- Reads the arguments of the program. -/
def read (arguments : List String) : Except Stop Call := readProgram .empty arguments

end MessageContract.CommandLine
