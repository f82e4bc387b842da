import PocketCalculator.Invocation

/-!
# The program

Standard input, standard output and the exit code around `Invocation`.  A
conversation is answered line by line, so that it can be held at a terminal; all
other commands need no input.
-/

set_option autoImplicit false

namespace PocketCalculator
namespace Program

/-- Writes lines to standard output. -/
def writeLines (lines : List String) : IO Unit := do
  let output ← IO.getStdout
  for line in lines do
    output.putStrLn line
  output.flush

/-- Ends the program with a failure. -/
def fail (failure : Failure) : IO UInt32 := do
  IO.eprintln (Invocation.complaintOf failure)
  return 1

/-- Writes what an invocation writes and gives its exit code. -/
def finish (invocation : Invocation) : IO UInt32 := do
  writeLines invocation.output
  for complaint in invocation.complaint do
    IO.eprintln complaint
  return invocation.exitCode.toUInt32

/-- Reads the bytes of one line, and says whether there was any. -/
partial def readLine (input : IO.FS.Stream) (line : ByteArray) : IO (ByteArray × Bool) := do
  let next ← input.read 1
  if next.isEmpty then return (line, !line.isEmpty)
  else if next.toList == [10] then return (line, true)
  else readLine input (line ++ next)

/-- Holds a conversation with standard input. -/
partial def converse (printer : Printer) (quiet : Bool) (session : Session) : IO UInt32 := do
  let (line, found) ← readLine (← IO.getStdin) .empty
  if !found then return 0
  match LineReading.ofBytes line.toList with
  | .unreadable => fail (.inputOutput unreadableReason)
  | .blank => converse printer quiet session
  | .farewell => return 0
  | .buttons input =>
      let exchange := session.exchange input
      writeLines (exchange.answer printer quiet)
      converse printer quiet exchange.session

/-- Runs the program on its arguments. -/
def run (arguments : List String) : IO UInt32 := do
  let terminal ← (← IO.getStdout).isTty
  match CommandLine.read arguments with
  | .ok { command := .repl, settings } =>
      converse (.ofSettings settings terminal) settings.isQuiet .new
  | _ => finish (.run terminal arguments [])

end Program
end PocketCalculator

/-- The program. -/
def main (arguments : List String) : IO UInt32 := do
  try PocketCalculator.Program.run arguments
  catch error => PocketCalculator.Program.fail (.inputOutput (toString error))
