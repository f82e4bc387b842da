import PocketCalculator.Calculator
import PocketCalculator.Command.Transcript
import PocketCalculator.Report

/-!
# Sessions

A session is a calculator together with the failure that its display shows, if
it shows one.  Buttons are pressed by name; a name that no button has is refused
and changes nothing.

A conversation is a session over the lines of an input.  Every line that is not
blank is an exchange: its names are pressed in turn up to the first that no
button has.
-/

set_option autoImplicit false

namespace PocketCalculator

/-- A calculator and the failure that its display shows. -/
structure Session where
  /-- The calculator. -/
  calculator : Calculator := .new
  /-- The failure of the last evaluation, while it is shown. -/
  error : Option CalculationError := none
deriving DecidableEq, Repr

/-- The failure that an outcome carries. -/
def Outcome.error? : Outcome → Option CalculationError
  | .ok _ => none
  | .error error => some error

namespace Session

/-- A new session. -/
def new : Session := {}

/-- Sends a message.  An evaluation replaces the failure; a failure is kept only
while the display shows an error. -/
def send (session : Session) (message : Message) : Session :=
  let (calculator, outcome) := session.calculator.send message
  let error := match outcome with
    | some outcome => outcome.error?
    | none => session.error
  { calculator, error := if calculator.phase = .errorShown then error else none }

/-- Presses the button with the given name, if there is one. -/
def press? (session : Session) (name : String) : Option Session :=
  (Keypad.findByLabel? name).map fun button => session.send button.message

/-- What the display shows after the given input. -/
def report (session : Session) (input : String) : Report :=
  .ofState input session.calculator.state session.error

/-- Presses buttons up to the first name that no button has, and gives that name. -/
def pressAll (session : Session) : List String → Session × Option String
  | [] => (session, none)
  | name :: rest =>
      match session.press? name with
      | some next => next.pressAll rest
      | none => (session, some name)

/-- The sessions after each name, up to the first name that no button has. -/
def pressEach (session : Session) : List String → List (String × Session)
  | [] => []
  | name :: rest =>
      match session.press? name with
      | some next => (name, next) :: next.pressEach rest
      | none => []

end Session

/-! ## Conversations -/

/-- What one line of input did. -/
structure Exchange where
  /-- The line without blanks at its ends. -/
  input : String
  /-- The first name on it that no button has. -/
  unknown : Option String
  /-- The session after it. -/
  session : Session
deriving DecidableEq, Repr

/-- What a line of input is. -/
inductive LineReading where
  | unreadable
  | blank
  | farewell
  | buttons (input : String)
deriving DecidableEq, Repr

/-- The words that end a conversation. -/
def farewells : List String := ["quit", "exit"]

/-- Reads a line from its bytes. -/
def LineReading.ofBytes (bytes : List UInt8) : LineReading :=
  match String.fromUTF8? ⟨bytes.toArray⟩ with
  | none => unreadable
  | some line =>
      let input := Text.trim line
      if input = "" then blank
      else if input ∈ farewells then farewell
      else buttons input

/-- What is wrong with input that is no text. -/
def unreadableReason : String := "stream did not contain valid UTF-8"

namespace Session

/-- Presses the buttons that a line names. -/
def exchange (session : Session) (input : String) : Exchange :=
  let (next, unknown) := session.pressAll (Text.words input)
  { input, unknown, session := next }

/-- Goes through lines of input, up to a word that ends the conversation or a
line that is no text. -/
def converse (session : Session) : List (List UInt8) → List Exchange × Option Failure
  | [] => ([], none)
  | line :: rest =>
      match LineReading.ofBytes line with
      | .unreadable => ([], some (.inputOutput unreadableReason))
      | .blank => session.converse rest
      | .farewell => ([], none)
      | .buttons input =>
          let exchange := session.exchange input
          let (later, failure) := exchange.session.converse rest
          (exchange :: later, failure)

end Session

/-- The lines that an exchange is answered with: the name that no button has,
always, and a report unless reports are kept back. -/
def Exchange.answer (printer : Printer) (quiet : Bool) (exchange : Exchange) : List String :=
  (exchange.unknown.map fun name => (Failure.unknownButton name).message).toList ++
    if quiet then [] else [printer.trace (exchange.session.report exchange.input)]

/-- The lines of an input; the last need not end in a newline. -/
def splitLines : List UInt8 → List (List UInt8)
  | [] => []
  | byte :: rest =>
      if byte = 10 then [] :: splitLines rest
      else
        match splitLines rest with
        | [] => [[byte]]
        | line :: others => (byte :: line) :: others

end PocketCalculator
