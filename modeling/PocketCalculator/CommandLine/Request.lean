import PocketCalculator.Command.Run
import PocketCalculator.CommandLine.Level

/-!
# Reading a command line

A command line is options, a command, and the options and operands of that
command.  What was given behind the command counts before what was given in front
of it.
-/

set_option autoImplicit false

namespace PocketCalculator

/-- A command and the settings under which it is to run. -/
structure Request where
  /-- The command. -/
  command : Command
  /-- The settings. -/
  settings : Settings
deriving DecidableEq, Repr

namespace CommandLine

/-- The word that asks for help in place of a command. -/
def helpWord : String := "help"

/-- What the words after the word for help ask for: help, if there is none, or one
that names a command or is the word for help again. -/
def helpOutcome : List String → UsageError
  | [] => .helpRequested
  | word :: rest =>
      if (CommandName.ofWord? word).isNone && word != helpWord then .invalidSubcommand word
      else
        match rest with
        | [] => .helpRequested
        | extra :: _ => .invalidSubcommand extra

/-- The command with the operands that were given behind its name. -/
def commandOf (name : CommandName) (level : Level) : Except UsageError Command :=
  match name, level.operands with
  | .eval, [] => .error (.missingOperand .eval)
  | .eval, expression :: _ => .ok (.eval expression)
  | .press, [] => .error (.missingOperand .press)
  | .press, buttons => .ok (.press buttons level.trace)
  | .repl, _ => .ok .repl
  | .keypad, _ => .ok .keypad

/-- The verbosity that the flags of both levels ask for. -/
def verbosityOf (outer inner : Level) : Verbosity :=
  if outer.quiet || inner.quiet then .quiet
  else
    match if inner.verbose = 0 then outer.verbose else inner.verbose with
    | 0 => .normal
    | 1 => .verbose
    | _ => .debug

/-- The settings that both levels ask for. -/
def settingsOf (outer inner : Level) : Settings :=
  { verbosity := verbosityOf outer inner
    color := (inner.color.or outer.color).getD .auto
    format := (inner.format.or outer.format).getD .text }

/-- Reads what stands behind the name of a command, and then closes the option
that is open in front of it. -/
def readCommand (outer : Level) (name : CommandName) (arguments : List String) :
    Except UsageError Request := do
  let inner ← Level.takeAll {} name arguments
  let command ← commandOf name inner
  let outer ← outer.settle
  return { command, settings := settingsOf outer inner }

/-- The end of a command line without a command. -/
def withoutCommand (outer : Level) : Except UsageError Request := do
  let outer ← outer.settle
  .error (if outer.isGiven then .missingSubcommand else .nothingGiven)

/-- A word where a command cannot stand any more: the first after a separator. -/
def afterSeparator (outer : Level) : List String → Except UsageError Request
  | [] => withoutCommand outer
  | word :: _ =>
      if (CommandName.ofWord? word).isSome || word == helpWord then .error (.unknownArgument word)
      else .error (.invalidSubcommand word)

/-- What an argument in front of a command can be. -/
inductive FrontWord where
  | help
  | command (name : CommandName)
  | other
deriving DecidableEq, Repr

/-- What an argument in front of a command is.  The value that an option waits
for is never the name of a command. -/
def frontWord (outer : Level) (argument : String) : FrontWord :=
  if outer.awaitsValue then .other
  else if argument = helpWord then .help
  else
    match CommandName.ofWord? argument with
    | some name => .command name
    | none => .other

/-- Reads a command line from the given level on. -/
def readFrom (outer : Level) : List String → Except UsageError Request
  | [] => withoutCommand outer
  | argument :: rest =>
      match frontWord outer argument with
      | .help => .error (helpOutcome rest)
      | .command name => readCommand outer name rest
      | .other =>
          match Shape.of argument with
          | .separator => afterSeparator outer rest
          | shape => do
              match ← outer.takeOption? none argument shape with
              | some next => readFrom next rest
              | none =>
                  if outer.awaitsValue then readFrom (outer.takeValue argument) rest
                  else .error (.invalidSubcommand argument)

/-- Reads a command line. -/
def read (arguments : List String) : Except UsageError Request := readFrom {} arguments

end CommandLine

end PocketCalculator
