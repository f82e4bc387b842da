import PocketCalculator.Command.Run

/-!
# Commands at work

A command writes its lines while it works: a press is reported before the next button is
looked up, and a line of a conversation is answered before the next line is read.  A line
that the sink refuses ends the work at once, with the refusal as its failure.
-/

set_option autoImplicit false

namespace PocketCalculator

/-- Work that writes to a sink, and ends with a value or a failure. -/
abbrev Writing (α : Type) : Type := ExceptT Failure (StateM Sink) α

/-- Writes a line; a refusal ends the work. -/
def Writing.line (text : String) : Writing Unit := fun sink =>
  match sink.write (lineBytes text) with
  | (next, true) => (.ok (), next)
  | (next, false) => (.error (.inputOutput sink.refusal), next)

namespace Command

variable (settings : Settings) (printer : Printer)

/-- Writes a line, but nothing under quiet settings. -/
def say (text : String) : Writing Unit :=
  if settings.isQuiet then return () else Writing.line text

/-- Reports on an expression, and fails if it has no value. -/
def performEval (expression : String) : Writing Unit := do
  let outcome := Evaluation.evaluate expression
  say settings (printer.report (outcomeReport expression outcome))
  match outcome with
  | .ok _ => return ()
  | .error error => throw (.evaluation error)

/-- Presses buttons in turn, each press reported in a trace, and fails at a name that no
button has. -/
def performPresses (trace : Bool) (session : Session) : List String → Writing Session
  | [] => return session
  | name :: rest =>
      match session.press? name with
      | none => throw (.unknownButton name)
      | some next => do
          if trace then say settings (printer.trace (next.report name))
          performPresses trace next rest

/-- Presses buttons on a new calculator; without a trace the end is reported. -/
def performPress (buttons : List String) (trace : Bool) : Writing Unit := do
  let final ← performPresses settings printer trace .new buttons
  if trace then return ()
  else say settings (printer.report (final.report (String.intercalate " " buttons)))

/-- Presses the buttons that a line names, and tells of a name that no button has. -/
def performNames (session : Session) : List String → Writing Session
  | [] => return session
  | name :: rest =>
      match session.press? name with
      | some next => performNames next rest
      | none => do
          Writing.line (Failure.unknownButton name).message
          return session

/-- Goes through the lines of a conversation, and answers each before the next is read. -/
def performRepl (session : Session) : List (List UInt8) → Writing Unit
  | [] => return ()
  | line :: rest =>
      match LineReading.ofBytes line with
      | .unreadable => throw (.inputOutput unreadableReason)
      | .blank => performRepl session rest
      | .farewell => return ()
      | .buttons input => do
          let next ← performNames session (Text.words input)
          say settings (printer.trace (next.report input))
          performRepl next rest

/-- Does the work of a command. -/
def perform (terminal : Bool) (command : Command) (input : List UInt8) : Writing Unit :=
  let printer := Printer.ofSettings settings terminal
  match command with
  | eval expression => performEval settings printer expression
  | press buttons trace => performPress settings printer buttons trace
  | repl => performRepl settings printer .new (splitLines input)
  | keypad => say settings printer.keypad

end Command

end PocketCalculator
