import PocketCalculator.Json.Printer
import PocketCalculator.Storage
import PocketCalculator.Text.Emphasis
import PocketCalculator.Text.Padding

/-!
# Reports

A report says what was entered and what the display shows after it.  A printer
writes reports and the keypad, for people or as JSON.
-/

set_option autoImplicit false

namespace PocketCalculator

/-- What the display shows after some input. -/
structure Report where
  /-- What was entered. -/
  input : String
  /-- The text on the display. -/
  display : String
  /-- The phase of the display. -/
  phase : Phase
  /-- The message of the failure that the display shows, if it shows one. -/
  error : Option String
deriving DecidableEq, Repr

namespace Report

/-- The display after an input, with the failure that it shows. -/
def ofState (input : String) (state : DisplayState) (error : Option CalculationError) : Report :=
  { input
    display := state.text
    phase := state.phase
    error := error.map CalculationError.message }

/-- A report as a JSON value; without a failure it has no such member. -/
def toJson (report : Report) : Json :=
  .record ([("input", .ofText report.input), ("display", .ofText report.display),
    ("phase", report.phase.toJson)] ++
    (report.error.map fun message => ("error", .ofText message)).toList)

end Report

/-- How reports are written. -/
structure Printer where
  /-- The format of the output. -/
  format : OutputFormat
  /-- Whether colours are used. -/
  useColor : Bool
deriving DecidableEq, Repr

namespace Printer

/-- The printer for the given settings and for an output that is a terminal or is not. -/
def ofSettings (settings : Settings) (terminal : Bool) : Printer :=
  { format := settings.format, useColor := settings.color.usesColor terminal }

/-- The text on the display; a result and an error are emphasised. -/
def display (printer : Printer) (report : Report) : String :=
  match report.phase with
  | .resultShown => Text.emphasize .success printer.useColor report.display
  | .errorShown => Text.emphasize .failure printer.useColor report.display
  | .empty => report.display
  | .entering => report.display

/-- A report on its own. -/
def report (printer : Printer) (report : Report) : String :=
  match printer.format with
  | .json => report.toJson.text
  | .text => printer.display report

/-- The width of the input in front of a display. -/
def inputWidth : Nat := 6

/-- A report as one of several, with its input in front. -/
def trace (printer : Printer) (report : Report) : String :=
  match printer.format with
  | .json => printer.report report
  | .text =>
      Text.emphasize .aside printer.useColor (Text.padLeft inputWidth report.input) ++ "  " ++
        printer.display report

/-- The width of a label inside its brackets. -/
def labelWidth : Nat := 5

/-- A row of buttons. -/
def buttonRow (row : List Button) : String :=
  String.intercalate " " (row.map fun button => "[" ++ Text.center labelWidth button.label ++ "]")

/-- The keypad, row by row. -/
def keypad (printer : Printer) : String :=
  match printer.format with
  | .json => Keypad.toJson.text
  | .text => String.intercalate "\n" (Keypad.rows.map buttonRow)

end Printer

end PocketCalculator
