import PocketCalculator.CommandLine.Argument

/-!
# One level of a command line

The arguments before the command form one level and those behind it another.  On
each level flags and options may stand anywhere; `Level` is what has been given
so far.

An option whose value is the next argument stays open until something other than
that value follows, and only then is its value looked at.  A repeated option, or a
value that it cannot have, is therefore found out at that point.
-/

set_option autoImplicit false

namespace PocketCalculator
namespace CommandLine

/-- An option that is still open, with its value if that has been given. -/
structure OpenOption where
  /-- The option. -/
  option : ValueOption
  /-- Its value. -/
  value : Option String := none
deriving DecidableEq, Repr

/-- What has been given on one level. -/
structure Level where
  /-- How often more output was asked for. -/
  verbose : Nat := 0
  /-- Whether less output was asked for. -/
  quiet : Bool := false
  /-- The choice of colour. -/
  color : Option ColorChoice := none
  /-- The format of the output. -/
  format : Option OutputFormat := none
  /-- Whether every press is reported. -/
  trace : Bool := false
  /-- The operands. -/
  operands : List String := []
  /-- The option that is still open. -/
  pending : Option OpenOption := none
deriving DecidableEq, Repr

namespace Level

/-- The name by which an option is reported. -/
def optionName (word : String) : String := "--" ++ word

/-- Whether any flag or option was given. -/
def isGiven (level : Level) : Bool :=
  0 < level.verbose || level.quiet || level.color.isSome || level.format.isSome || level.trace

/-- Whether an option waits for its value. -/
def awaitsValue (level : Level) : Bool :=
  match level.pending with
  | some { value := none, .. } => true
  | _ => false

/-- Gives an option its value. -/
def assign (level : Level) (option : ValueOption) (value : String) : Except UsageError Level :=
  match option with
  | .color =>
      if level.color.isSome then .error (.repeatedOption (optionName option.word))
      else
        match colorOfValue? value with
        | some choice => .ok { level with color := some choice }
        | none => .error (.invalidValue (optionName option.word))
  | .format =>
      if level.format.isSome then .error (.repeatedOption (optionName option.word))
      else
        match formatOfValue? value with
        | some format => .ok { level with format := some format }
        | none => .error (.invalidValue (optionName option.word))

/-- Closes the option that is open. -/
def settle (level : Level) : Except UsageError Level :=
  match level.pending with
  | none => .ok level
  | some { option, value := none } => .error (.invalidValue (optionName option.word))
  | some { option, value := some value } => { level with pending := none }.assign option value

/-- Raises a flag.  Help and version end the reading. -/
def raise (level : Level) (command : Option CommandName) (flag : Flag) :
    Except UsageError Level := do
  let level ← level.settle
  match flag with
  | .verbose => return { level with verbose := level.verbose + 1 }
  | .quiet =>
      if level.quiet then .error (.repeatedOption (optionName flag.word))
      else return { level with quiet := true }
  | .trace =>
      if level.trace then .error (.repeatedOption (optionName flag.word))
      else return { level with trace := true }
  | .help => .error .helpRequested
  | .version => .error (.versionRequested command)

/-- Raises the flags with the given letters in turn. -/
def raiseLetters (level : Level) (command : Option CommandName) :
    List Char → Except UsageError Level
  | [] => .ok level
  | letter :: rest =>
      match Flag.ofLetter? command letter with
      | none => .error (.unknownArgument (String.ofList ['-', letter]))
      | some flag => do
          let level ← level.raise command flag
          level.raiseLetters command rest

/-- Opens an option, or gives it the value behind its equals sign. -/
def openOption (level : Level) (option : ValueOption) (value : Option String) :
    Except UsageError Level := do
  let level ← level.settle
  match value with
  | some value => level.assign option value
  | none => return { level with pending := some { option } }

/-- Gives the open option its value. -/
def takeValue (level : Level) (value : String) : Level :=
  { level with pending := level.pending.map fun waiting => { waiting with value := some value } }

/-- Whether the next operand may begin with a hyphen: an expression may. -/
def takesHyphens (level : Level) (command : Option CommandName) : Bool :=
  command == some .eval && level.operands.isEmpty

/-- Takes an argument as a flag or an option.  It is neither, and the answer is
`none`, if it looks like neither or if it can only be an operand that begins with
a hyphen. -/
def takeOption? (level : Level) (command : Option CommandName) (argument : String) :
    Shape → Except UsageError (Option Level)
  | .long word value =>
      match Flag.ofWord? command word, ValueOption.ofWord? word with
      | some flag, _ =>
          if value.isSome then .error (.unexpectedValue (optionName word))
          else some <$> level.raise command flag
      | none, some option => some <$> level.openOption option value
      | none, none =>
          if level.takesHyphens command then .ok none else .error (.unknownArgument argument)
  | .letters letters =>
      if level.takesHyphens command &&
          letters.any fun letter => (Flag.ofLetter? command letter).isNone then .ok none
      else some <$> level.raiseLetters command letters
  | .separator => .ok none
  | .plain => .ok none

/-- Takes an argument as an operand of a command. -/
def takeOperand (level : Level) (command : CommandName) (argument : String) :
    Except UsageError Level :=
  let add : Except UsageError Level := do
    let level ← level.settle
    return { level with operands := level.operands ++ [argument] }
  match command with
  | .eval => if level.operands.isEmpty then add else .error (.unknownArgument argument)
  | .press => add
  | .repl => .error (.unknownArgument argument)
  | .keypad => .error (.unknownArgument argument)

/-- Takes arguments that are operands however they look. -/
def takeOperands (level : Level) (command : CommandName) : List String → Except UsageError Level
  | [] => level.settle
  | argument :: rest => do
      let level ← level.takeOperand command argument
      level.takeOperands command rest

/-- Takes the arguments behind a command. -/
def takeAll (level : Level) (command : CommandName) : List String → Except UsageError Level
  | [] => level.settle
  | argument :: rest =>
      match Shape.of argument with
      | .separator => level.takeOperands command rest
      | shape => do
          match ← level.takeOption? (some command) argument shape with
          | some next => next.takeAll command rest
          | none =>
              if level.awaitsValue then (level.takeValue argument).takeAll command rest
              else
                let next ← level.takeOperand command argument
                next.takeAll command rest

end Level

end CommandLine
end PocketCalculator
