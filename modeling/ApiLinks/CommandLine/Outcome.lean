import ApiLinks.CommandLine.Run

/-!
# Outcomes

What a run of the program shows: its exit code, its output and what it says about an error. Arguments that
are no command line are told apart from errors of the command by the code; asking for help is no error.
-/

namespace ApiLinks

/-- What a run of the program shows. -/
structure Outcome where
  code : UInt8
  output : Text
  errorText : Option Text
  deriving DecidableEq, Repr

namespace Outcome

/-- The start of what is said about an error. -/
def errorMark : Text := "Error: ".toList

def ofResult : Except CommandError Text → Outcome
  | .ok output => ⟨0, output, none⟩
  | .error e => ⟨1, [], some (errorMark ++ CommandError.line e.causes)⟩

/-- The outcome of arguments that ask for no run of the command. -/
def ofUsageError : UsageError → Outcome
  | .help => ⟨0, [], none⟩
  | _ => ⟨2, [], none⟩

/-- The outcome of the program for its arguments, with the bytes of the files. -/
def ofArguments (arguments : List Text) (content : Text → Except FileError (List UInt8)) : Outcome :=
  match Options.ofArguments arguments with
  | .error e => ofUsageError e
  | .ok o => ofResult (Command.run o (content o.links))

end Outcome

end ApiLinks
