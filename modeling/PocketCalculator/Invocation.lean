import PocketCalculator.CommandLine.Request

/-!
# Invocations

What the program as a whole does with a command line and an input: the text that
it writes, the message with which it fails, and its exit code.
-/

set_option autoImplicit false

namespace PocketCalculator

/-- What one invocation of the program does. -/
structure Invocation where
  /-- The exit code. -/
  exitCode : UInt8
  /-- The lines on standard output. -/
  output : List String := []
  /-- The line on standard error, if there is one. -/
  complaint : Option String := none
deriving DecidableEq, Repr

namespace Invocation

/-- What comes of a command line that is no request: help and version are written
as asked for, and all else is a complaint. -/
def ofUsageError (error : UsageError) : Invocation :=
  match error with
  | .helpRequested => { exitCode := 0, output := [error.message] }
  | .versionRequested _ => { exitCode := 0, output := [error.message] }
  | _ => { exitCode := 2, complaint := some ("error: " ++ error.message) }

/-- How a failure is told on standard error. -/
def complaintOf (failure : Failure) : String := "Error: " ++ failure.message

/-- What comes of a transcript. -/
def ofTranscript (transcript : Transcript) : Invocation :=
  { exitCode := if transcript.failure.isSome then 1 else 0
    output := transcript.lines
    complaint := transcript.failure.map complaintOf }

/-- What the program does with its arguments and its input. -/
def run (terminal : Bool) (arguments : List String) (input : List UInt8) : Invocation :=
  match CommandLine.read arguments with
  | .error error => ofUsageError error
  | .ok request => ofTranscript (request.command.run request.settings terminal input)

end Invocation

end PocketCalculator
