/-!
# Usage

The names of the commands, and the ways in which a command line is not a request
to run one of them: it asks for help or for the version, or it is at fault.
-/

set_option autoImplicit false

namespace PocketCalculator

/-- The name of a command. -/
inductive CommandName where
  | eval
  | press
  | repl
  | keypad
deriving DecidableEq, Repr

namespace CommandName

/-- All command names. -/
def all : List CommandName := [eval, press, repl, keypad]

/-- The word for a command on the command line. -/
def word : CommandName → String
  | eval => "eval"
  | press => "press"
  | repl => "repl"
  | keypad => "keypad"

/-- The command that a word names. -/
def ofWord? (word : String) : Option CommandName := all.find? fun name => name.word == word

/-- What the operand of a command is called; some commands have none. -/
def operandName : CommandName → String
  | eval => "EXPRESSION"
  | press => "BUTTONS"
  | repl => ""
  | keypad => ""

end CommandName

/-- The name of the program. -/
def programName : String := "keycalc"

/-- The version of the program. -/
def programVersion : String := "0.1.0"

/-- Why a command line is not a request to run a command. -/
inductive UsageError where
  /-- Nothing was given at all. -/
  | nothingGiven
  /-- Help was asked for. -/
  | helpRequested
  /-- The version was asked for, of the program or of a command. -/
  | versionRequested (command : Option CommandName)
  /-- A command was expected in place of the word. -/
  | invalidSubcommand (word : String)
  /-- Options were given and no command. -/
  | missingSubcommand
  /-- A command was given without its operand. -/
  | missingOperand (command : CommandName)
  /-- An option has no value or one that it cannot have. -/
  | invalidValue (option : String)
  /-- An option was given twice that can be given once. -/
  | repeatedOption (option : String)
  /-- A flag was given a value. -/
  | unexpectedValue (flag : String)
  /-- The argument means nothing where it stands. -/
  | unknownArgument (argument : String)
deriving DecidableEq, Repr

namespace UsageError

/-- The version of the program or of a command. -/
def versionText (command : Option CommandName) : String :=
  programName ++ (command.map fun name => "-" ++ name.word).getD "" ++ " " ++ programVersion

/-- How the program is called. -/
def helpText : String :=
  "Usage: " ++ programName ++ " [OPTIONS] <COMMAND>\n\n" ++
  "Commands:\n" ++
  "  eval <EXPRESSION>           Evaluate an expression from left to right\n" ++
  "  press [--trace] <BUTTONS>   Press keypad buttons on a new calculator\n" ++
  "  repl                        Press the buttons named on each line of the input\n" ++
  "  keypad                      Show the keypad\n" ++
  "  help                        Show this text\n\n" ++
  "Options:\n" ++
  "  -v, --verbose               Log more (twice: log everything)\n" ++
  "  -q, --quiet                 Write nothing but errors\n" ++
  "      --color <COLOR>         auto, always or never\n" ++
  "      --format <FORMAT>       text or json\n" ++
  "  -h, --help                  Show this text\n" ++
  "  -V, --version               Show the version"

/-- The words that tell a usage error to the user. -/
def message : UsageError → String
  | nothingGiven => helpText
  | helpRequested => helpText
  | versionRequested command => versionText command
  | invalidSubcommand word => "unrecognized subcommand '" ++ word ++ "'"
  | missingSubcommand => "a subcommand is required"
  | missingOperand command => "the operand <" ++ command.operandName ++ "> is required"
  | invalidValue option => "invalid value for '" ++ option ++ "'"
  | repeatedOption option => "'" ++ option ++ "' cannot be given more than once"
  | unexpectedValue flag => "'" ++ flag ++ "' takes no value"
  | unknownArgument argument => "unexpected argument '" ++ argument ++ "'"

end UsageError

end PocketCalculator
