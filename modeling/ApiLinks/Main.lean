import ApiLinks.CommandLine.Outcome

/-!
# The program

Reads the file that the arguments name, prints the outcome, and leaves with its code. Warnings are logged,
and everything but the least important events where the log is asked for.
-/

namespace ApiLinks.Program

/-- How to call the program. -/
def usage : String :=
  "Usage: links --links FILE [--resource RESOURCE] [--param NAME=VALUE]... [--base URL] [--verbose]"

/-- The reason that the system gives for not reading a file. -/
def fileError : IO.Error → FileError
  | .noFileOrDirectory _ _ _ => .notFound
  | .inappropriateType _ _ _ => .isDirectory
  | e => .other (toString e).toList

def readFile (path : Text) : IO (Except FileError (List UInt8)) := do
  try
    return .ok (← IO.FS.readBinFile (String.ofList path)).toList
  catch e =>
    return .error (fileError e)

/-- Whether an event is logged. -/
def isLogged (verbose : Bool) : Level → Bool
  | .warn => true
  | .debug => verbose
  | .trace => false

def levelName : Level → String
  | .trace => "TRACE"
  | .debug => "DEBUG"
  | .warn => "WARN"

/-- Writes the events that are logged. -/
def log (verbose : Bool) (events : List Event) : IO Unit := do
  for e in events do
    if isLogged verbose e.level then IO.eprintln s!"{levelName e.level} {String.ofList e.message}"

end ApiLinks.Program

open ApiLinks

def main (arguments : List String) : IO UInt32 := do
  match Options.ofArguments (arguments.map String.toList) with
  | .error .help =>
    IO.println Program.usage
    return 0
  | .error e =>
    IO.eprintln Program.usage
    return (Outcome.ofUsageError e).code.toUInt32
  | .ok o =>
    let content ← Program.readFile o.links
    Program.log o.verbose (Command.runEvents o content)
    let outcome := Outcome.ofResult (Command.run o content)
    IO.print (String.ofList outcome.output)
    if let some t := outcome.errorText then IO.eprintln (String.ofList t)
    return outcome.code.toUInt32
