import PocketCalculator.Expression.Operator
import PocketCalculator.Number.Numeral

/-!
# Keys and messages

A key types something; a message is what a button or the keyboard sends to the
display.
-/

set_option autoImplicit false

namespace PocketCalculator

/-- A key that types text.  The keypad has the digits below ten, but any number
of one byte can be typed as one digit key. -/
inductive Key where
  | digit (value : UInt8)
  | decimal
  | percent
  | operator (operator : Operator)
deriving DecidableEq, Repr

namespace Key

/-- Whether the key starts a new entry when a result is shown. -/
def isNumeric : Key → Bool
  | digit _ => true
  | _ => false

/-- The text that the key types. -/
def text : Key → String
  | digit value => decimalText value.toNat
  | decimal => "."
  | percent => "%"
  | operator symbol => symbol.symbol

end Key

/-- What is sent to the display. -/
inductive Message where
  | press (key : Key)
  | equals
  | clear
  | delete
deriving DecidableEq, Repr

end PocketCalculator
