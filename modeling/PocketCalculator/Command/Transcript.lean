import PocketCalculator.Expression.Operator

/-!
# Transcripts and their delivery

What a command does is a transcript: the lines that it writes, and the failure
that it ends with if it fails.  Delivery writes the lines to a sink, each ended
by a newline.  A sink with limited room keeps what fits and refuses the rest;
the refusal ends the delivery and takes the place of any later failure.
-/

set_option autoImplicit false

namespace PocketCalculator

/-- Why a command fails. -/
inductive Failure where
  | evaluation (error : CalculationError)
  | unknownButton (name : String)
  | inputOutput (reason : String)
deriving DecidableEq, Repr

/-- The words that tell a failure to the user. -/
def Failure.message : Failure → String
  | evaluation error => error.message
  | unknownButton name => "Unknown button: " ++ name
  | inputOutput reason => "I/O error: " ++ reason

/-- What a command writes and how it ends. -/
structure Transcript where
  /-- The lines, without their newlines. -/
  lines : List String := []
  /-- The failure at the end, if there is one. -/
  failure : Option Failure := none
deriving DecidableEq, Repr

/-- The bytes of a line and its newline. -/
def lineBytes (line : String) : List UInt8 := (line ++ "\n").toUTF8.toList

/-- All bytes of a transcript. -/
def Transcript.bytes (transcript : Transcript) : List UInt8 :=
  transcript.lines.flatMap lineBytes

/-! ## Sinks -/

/-- An output that keeps what is written to it. -/
structure Sink where
  /-- How many more bytes it takes; without a number, any. -/
  room : Option Nat := none
  /-- What it says when it refuses a byte. -/
  refusal : String := "closed"
  /-- What was written. -/
  kept : List UInt8 := []
deriving DecidableEq, Repr

namespace Sink

/-- Writes bytes as far as there is room, and says whether all were taken. -/
def write (sink : Sink) (bytes : List UInt8) : Sink × Bool :=
  match sink.room with
  | none => ({ sink with kept := sink.kept ++ bytes }, true)
  | some room =>
      if bytes.length ≤ room then
        ({ sink with room := some (room - bytes.length), kept := sink.kept ++ bytes }, true)
      else ({ sink with room := some 0, kept := sink.kept ++ bytes.take room }, false)

/-- Writes lines up to the first that is refused; the failure is the refusal or
else the given one. -/
def writeLines (sink : Sink) (failure : Option Failure) : List String → Sink × Option Failure
  | [] => (sink, failure)
  | line :: rest =>
      match sink.write (lineBytes line) with
      | (next, true) => next.writeLines failure rest
      | (next, false) => (next, some (.inputOutput sink.refusal))

/-- Writes a transcript. -/
def deliver (sink : Sink) (transcript : Transcript) : Sink × Option Failure :=
  sink.writeLines transcript.failure transcript.lines

end Sink

end PocketCalculator
