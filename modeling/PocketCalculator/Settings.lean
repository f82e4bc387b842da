/-!
# Settings

How much the program says, whether it uses colours, and in which format it
writes.  None of them changes what is calculated.
-/

set_option autoImplicit false

namespace PocketCalculator

/-- How much the program says. -/
inductive Verbosity where
  | quiet
  | normal
  | verbose
  | debug
deriving DecidableEq, Repr, Inhabited

namespace Verbosity

/-- All degrees of verbosity. -/
def all : List Verbosity := [quiet, normal, verbose, debug]

/-- The name of a degree of verbosity. -/
def name : Verbosity → String
  | quiet => "Quiet"
  | normal => "Normal"
  | verbose => "Verbose"
  | debug => "Debug"

/-- Whether nothing but errors is written. -/
def isQuiet (verbosity : Verbosity) : Bool := verbosity == quiet

/-- Whether everything is logged. -/
def isDebug (verbosity : Verbosity) : Bool := verbosity == debug

/-- The filter of the log, which goes to standard error. -/
def logFilter : Verbosity → String
  | quiet => "error"
  | normal => "warn"
  | verbose => "keycalc=debug,keycalc_cli=debug"
  | debug => "keycalc=trace,keycalc_cli=trace"

end Verbosity

/-- Whether colours are used. -/
inductive ColorChoice where
  | always
  | auto
  | never
deriving DecidableEq, Repr, Inhabited

namespace ColorChoice

/-- All choices of colour. -/
def all : List ColorChoice := [always, auto, never]

/-- The name of a choice of colour. -/
def name : ColorChoice → String
  | always => "Always"
  | auto => "Auto"
  | never => "Never"

/-- Whether colours are used on an output that is a terminal or is not. -/
def usesColor (choice : ColorChoice) (terminal : Bool) : Bool :=
  match choice with
  | always => true
  | never => false
  | auto => terminal

end ColorChoice

/-- The format of what is written. -/
inductive OutputFormat where
  | text
  | json
deriving DecidableEq, Repr, Inhabited

namespace OutputFormat

/-- All formats. -/
def all : List OutputFormat := [text, json]

/-- The name of a format. -/
def name : OutputFormat → String
  | text => "Text"
  | json => "Json"

end OutputFormat

/-- The settings of a run. -/
structure Settings where
  /-- How much is said. -/
  verbosity : Verbosity := .normal
  /-- Whether colours are used. -/
  color : ColorChoice := .auto
  /-- The format of the output. -/
  format : OutputFormat := .text
deriving DecidableEq, Repr, Inhabited

/-- Whether the program keeps its reports to itself. -/
def Settings.isQuiet (settings : Settings) : Bool := settings.verbosity.isQuiet

end PocketCalculator
