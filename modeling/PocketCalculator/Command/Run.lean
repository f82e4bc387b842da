import PocketCalculator.Command.Session

/-!
# Commands

The commands of the program and their transcripts.  Under quiet settings a
command keeps its reports to itself; what it does and how it ends are the same.
-/

set_option autoImplicit false

namespace PocketCalculator

/-- A command with its operands. -/
inductive Command where
  | eval (expression : String)
  | press (buttons : List String) (trace : Bool)
  | repl
  | keypad
deriving DecidableEq, Repr

/-- The lines of a report, of which there are none under quiet settings. -/
def unlessQuiet (settings : Settings) (lines : List String) : List String :=
  if settings.isQuiet then [] else lines

namespace Command

/-! ## What the commands report -/

/-- The report on an expression and its outcome. -/
def outcomeReport (expression : String) (outcome : Outcome) : Report :=
  { input := expression
    display := DisplayState.outcomeText outcome
    phase := match outcome with
      | .ok _ => .resultShown
      | .error _ => .errorShown
    error := outcome.error?.map CalculationError.message }

/-- The report after buttons are pressed on a new calculator, if all are known. -/
def pressReport? (buttons : List String) : Option Report :=
  match Session.new.pressAll buttons with
  | (final, none) => some (final.report (String.intercalate " " buttons))
  | (_, some _) => none

/-- The reports after each button that is pressed on a new calculator, up to the
first name that no button has. -/
def pressReports (buttons : List String) : List Report :=
  (Session.new.pressEach buttons).map fun pressed => pressed.2.report pressed.1

/-! ## What the commands write -/

variable (settings : Settings) (printer : Printer)

/-- Evaluates an expression; an expression without a value is a failure, and is
reported first. -/
def evalTranscript (expression : String) : Transcript :=
  let outcome := Evaluation.evaluate expression
  { lines := unlessQuiet settings [printer.report (outcomeReport expression outcome)]
    failure := outcome.error?.map Failure.evaluation }

/-- Presses buttons on a new calculator.  The trace reports every press; without
it the end is reported, if all buttons are known. -/
def pressTranscript (buttons : List String) (trace : Bool) : Transcript :=
  let reports :=
    if trace then (pressReports buttons).map printer.trace
    else ((pressReport? buttons).map printer.report).toList
  { lines := unlessQuiet settings reports
    failure := (Session.new.pressAll buttons).2.map Failure.unknownButton }

/-- Holds a conversation over the lines of the input. -/
def replTranscript (input : List UInt8) : Transcript :=
  let (exchanges, failure) := Session.new.converse (splitLines input)
  { lines := exchanges.flatMap (Exchange.answer printer settings.isQuiet), failure }

/-- Shows the keypad. -/
def keypadTranscript : Transcript := { lines := unlessQuiet settings [printer.keypad] }

/-- What a command does with the given input. -/
def transcript (command : Command) (input : List UInt8) : Transcript :=
  match command with
  | eval expression => evalTranscript settings printer expression
  | press buttons trace => pressTranscript settings printer buttons trace
  | repl => replTranscript settings printer input
  | keypad => keypadTranscript settings printer

end Command

/-- What a command does under the given settings, on an output that is a terminal
or is not. -/
def Command.run (settings : Settings) (terminal : Bool) (command : Command)
    (input : List UInt8) : Transcript :=
  command.transcript settings (.ofSettings settings terminal) input

end PocketCalculator
