import MessageContract.CommandLine.Run

/-!
# The program

Runs the command line on this machine. The files that a run asks for are looked up, and it is run
again until it asks for no more. There is no network.
-/

namespace MessageContract.Program

open CommandLine

/-- What stands at a path. -/
def look (path : String) : IO (Option Entry) := do
  if ← ((← IO.currentDir) / path).isDir then return some .directory
  try return some (.file (← IO.FS.readBinFile path).toList)
  catch _ => return none

/-- The world with all that stands on the way to a path. -/
def explore (w : World) (path : String) : IO World := do
  let mut w := w
  let mut way := ""
  for piece in path.splitOn "/" do
    way := way ++ piece
    if way != "" then
      if let some e ← look way then w := w.write ((FilePath.ofString way).place w.here) e
    way := way ++ "/"
  return w

/-- The files that a run asks for. -/
def wanted (o : Outcome) : List String :=
  o.log.filterMap fun
    | .reading path => some path
    | _ => none

/-- The payload file of a call. -/
def payloadFile (arguments : List String) : List String :=
  match read arguments with
  | .ok c =>
    match c.task with
    | .validate _ path => [path]
    | .messages => []
  | .error _ => []

/-- Runs until all files that are asked for are known. -/
partial def settle (run : World → Outcome) (known : List String) (w : World) : IO Outcome := do
  let o := run w
  match (wanted o).filter (!known.contains ·) with
  | [] => return o
  | paths =>
    let mut w := w
    for path in paths do w ← explore w path
    settle run (known ++ paths) w

/-- A line of the log. -/
def line (asJson : Bool) (e : Event) : String :=
  if asJson then e.json.write
  else
    e.level.write ++ String.join (e.fields.map fun (name, value) =>
      " " ++ if name == "message" then (value.asString?).getD "" else name ++ "=" ++ value.write)

/-- Writes what a call is asked to show of its log. -/
def report (arguments : List String) (o : Outcome) : IO Unit := do
  if let .ok c := read arguments then
    for e in o.log do
      if e.level.verbosity ≤ c.verbosity then IO.eprintln (line c.logJson e)

/-- What is given as input, if the call reads it. -/
def input (arguments : List String) : IO (List UInt8) := do
  if (payloadFile arguments).contains "-" then
    return (← (← IO.getStdin).readBinToEnd).toList
  else return []

/-- Runs the command line and tells how it ends. -/
def run (arguments : List String) : IO UInt32 := do
  let settings := FetchSettings.ofEnvironment (← IO.getEnv "AAPI_FETCH_TIMEOUT_SECS")
    (← IO.getEnv "AAPI_USER_AGENT")
  let bytes ← input arguments
  let here := (FilePath.ofString (← IO.currentDir).toString).place []
  let mut w : World := ⟨here, [], .unreachable⟩
  for path in payloadFile arguments do w ← explore w path
  let o ← settle (CommandLine.run · settings bytes arguments) [] w
  report arguments o
  IO.print o.output
  IO.eprint o.errors
  return o.exitCode.toUInt32

end MessageContract.Program

def main (arguments : List String) : IO UInt32 := MessageContract.Program.run arguments
