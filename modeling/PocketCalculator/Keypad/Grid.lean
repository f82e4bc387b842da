import PocketCalculator.Keypad.Button
import PocketCalculator.Text.Blank

/-!
# The keypad

Twenty buttons in five rows of four, and how a button is found: by its place, by
its id, or by what a person would call it.
-/

set_option autoImplicit false

namespace PocketCalculator
namespace Keypad

/-! ## The grid -/

/-- The message of a digit button. -/
def digit (value : UInt8) : Message := .press (.digit value)

/-- The message of an operator button. -/
def operator (symbol : Operator) : Message := .press (.operator symbol)

/-- The messages of the buttons, row by row. -/
def messages : List (List Message) :=
  [[.clear, .delete, operator .modulo, operator .divide],
   [digit 7, digit 8, digit 9, operator .multiply],
   [digit 4, digit 5, digit 6, operator .subtract],
   [digit 1, digit 2, digit 3, operator .add],
   [.press .percent, digit 0, .press .decimal, .equals]]

/-- The buttons, row by row. -/
def rows : List (List Button) :=
  messages.mapIdx fun row line =>
    line.mapIdx fun col message => Button.ofMessage message (UInt64.ofNat row) (UInt64.ofNat col)

/-- All buttons, each row after the one above it. -/
def buttons : List Button := rows.flatten

/-- The number of rows. -/
def rowCount : Nat := 5

/-- The number of buttons in a row. -/
def columnCount : Nat := 4

/-- Every row has the same number of buttons. -/
theorem rows_shape : rows.map List.length = List.replicate rowCount columnCount := by
  decide +kernel

/-! ## Finding a button -/

/-- The buttons of one row. -/
def row? (row : Nat) : Option (List Button) := rows[row]?

/-- The button at a place. -/
def at? (row col : Nat) : Option Button := (row? row).bind fun inRow => inRow[col]?

/-- The button with the given id. -/
def findById? (id : String) : Option Button := buttons.find? fun button => button.id == id

/-- The first button that sends the given message. -/
def findByMessage? (message : Message) : Option Button :=
  buttons.find? fun button => button.message == message

/-- Other names of buttons, in lower case. -/
def aliases : List (String × Message) :=
  [("c", .clear), ("clear", .clear),
   ("del", .delete), ("delete", .delete), ("back", .delete), ("backspace", .delete),
   ("*", operator .multiply), ("x", operator .multiply),
   ("/", operator .divide)]

/-- Whether a button is called by the given name: by its label, in letters of
either case, or by its id. -/
def isCalled (name : String) (button : Button) : Bool :=
  Text.sameLetters button.label name || button.id == name

/-- The button that a name without blanks at its ends stands for. -/
def findByName? (name : String) : Option Button :=
  match buttons.find? (isCalled name) with
  | some button => some button
  | none =>
      (aliases.find? fun entry => entry.1 == name.map Char.toLower).bind fun entry =>
        findByMessage? entry.2

/-- The button that a person means by a name. -/
def findByLabel? (name : String) : Option Button := findByName? (Text.trim name)

/-- The message that a click on an element sends. -/
def click? (id : String) : Option Message := (findById? id).map Button.message

end Keypad
end PocketCalculator
