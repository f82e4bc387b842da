import PocketCalculator.CommandLine.Usage
import PocketCalculator.Settings

/-!
# Arguments

What a single argument looks like, and the flags and options that there are.  A
flag stands alone; an option takes a value, after an equals sign or as the next
argument.
-/

set_option autoImplicit false

namespace PocketCalculator
namespace CommandLine

/-! ## Flags and options -/

/-- A flag. -/
inductive Flag where
  | verbose
  | quiet
  | trace
  | help
  | version
deriving DecidableEq, Repr

namespace Flag

/-- The long name of a flag. -/
def word : Flag → String
  | verbose => "verbose"
  | quiet => "quiet"
  | trace => "trace"
  | help => "help"
  | version => "version"

/-- The letter of a flag, if it has one. -/
def letter? : Flag → Option Char
  | verbose => some 'v'
  | quiet => some 'q'
  | trace => none
  | help => some 'h'
  | version => some 'V'

/-- The flags that may stand behind a command, or before all commands. -/
def available : Option CommandName → List Flag
  | some .press => [verbose, quiet, trace, help, version]
  | _ => [verbose, quiet, help, version]

/-- The flag with the given long name. -/
def ofWord? (command : Option CommandName) (word : String) : Option Flag :=
  (available command).find? fun flag => flag.word == word

/-- The flag with the given letter. -/
def ofLetter? (command : Option CommandName) (letter : Char) : Option Flag :=
  (available command).find? fun flag => flag.letter? == some letter

end Flag

/-- An option that takes a value. -/
inductive ValueOption where
  | color
  | format
deriving DecidableEq, Repr

namespace ValueOption

/-- All options. -/
def all : List ValueOption := [color, format]

/-- The long name of an option. -/
def word : ValueOption → String
  | color => "color"
  | format => "format"

/-- The option with the given long name. -/
def ofWord? (word : String) : Option ValueOption := all.find? fun option => option.word == word

end ValueOption

/-- The choice of colour that a value names. -/
def colorOfValue? : String → Option ColorChoice
  | "auto" => some .auto
  | "always" => some .always
  | "never" => some .never
  | _ => none

/-- The format that a value names. -/
def formatOfValue? : String → Option OutputFormat
  | "text" => some .text
  | "json" => some .json
  | _ => none

/-! ## The shape of an argument -/

/-- What an argument looks like. -/
inductive Shape where
  /-- Two hyphens alone, after which all arguments are operands. -/
  | separator
  /-- A long name after two hyphens, with a value if an equals sign follows it. -/
  | long (word : String) (value : Option String)
  /-- Letters after one hyphen. -/
  | letters (letters : List Char)
  /-- Anything else, a hyphen alone included. -/
  | plain
deriving DecidableEq, Repr

/-- The characters up to the first equals sign, and those after it if there is one. -/
def splitValue : List Char → List Char × Option (List Char)
  | [] => ([], none)
  | '=' :: rest => ([], some rest)
  | c :: rest =>
      let (word, value) := splitValue rest
      (c :: word, value)

/-- The shape of an argument. -/
def Shape.ofChars : List Char → Shape
  | ['-', '-'] => separator
  | '-' :: '-' :: rest =>
      let (word, value) := splitValue rest
      long (String.ofList word) (value.map String.ofList)
  | ['-'] => plain
  | '-' :: rest => letters rest
  | _ => plain

/-- The shape of an argument. -/
def Shape.of (argument : String) : Shape := ofChars argument.toList

end CommandLine
end PocketCalculator
