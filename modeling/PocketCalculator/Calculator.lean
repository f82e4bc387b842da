import PocketCalculator.Display.State
import PocketCalculator.Keypad.Keyboard

/-!
# The calculator

One display behind one keypad.  Input comes as the id of a button, as the name
of a button, as a key of the keyboard, or as a message; input that names nothing
is refused and changes nothing.
-/

set_option autoImplicit false

namespace PocketCalculator

/-- A calculator, which is its display. -/
structure Calculator where
  /-- The display. -/
  state : DisplayState := .empty
deriving DecidableEq, Repr

namespace Calculator

/-- A new calculator. -/
def new : Calculator := {}

/-- The text on the display. -/
def display (calculator : Calculator) : String := calculator.state.text

/-- The phase of the display. -/
def phase (calculator : Calculator) : Phase := calculator.state.phase

/-- Sends a message to the display. -/
def send (calculator : Calculator) (message : Message) : Calculator × Option Outcome :=
  let (state, outcome) := calculator.state.update message
  ({ state }, outcome)

/-- Sends what an input stands for, and says whether it stands for anything. -/
def receive (calculator : Calculator) : Option Message → Calculator × Bool
  | some message => ((calculator.send message).1, true)
  | none => (calculator, false)

/-- Presses the button with the given id. -/
def pressButton (calculator : Calculator) (id : String) : Calculator × Bool :=
  calculator.receive (Keypad.click? id)

/-- Presses the button with the given name. -/
def pressLabel (calculator : Calculator) (name : String) : Calculator × Bool :=
  calculator.receive ((Keypad.findByLabel? name).map Button.message)

/-- Presses a key of the keyboard. -/
def pressKey (calculator : Calculator) (key : String) : Calculator × Bool :=
  calculator.receive (Keyboard.message? key)

/-- Empties the display. -/
def clear (calculator : Calculator) : Calculator := (calculator.send .clear).1

/-- Input that names nothing changes nothing. -/
theorem receive_refused {calculator next : Calculator} {message : Option Message}
    (refused : calculator.receive message = (next, false)) : next = calculator := by
  cases message with
  | none =>
      simp only [receive, Prod.mk.injEq, and_true] at refused
      exact refused.symm
  | some message => simp [receive] at refused

end Calculator

end PocketCalculator
