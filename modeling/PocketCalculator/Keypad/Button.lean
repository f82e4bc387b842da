import PocketCalculator.Display.Key

/-!
# Buttons

A button sends one message.  Its id, its label and its visual role follow from
the message; only its place on the keypad does not.
-/

set_option autoImplicit false

namespace PocketCalculator

/-- The visual role of a button. -/
inductive ButtonStyle where
  | number
  | symbol
  | action
  | actionDull
  | symbolAction
deriving DecidableEq, Repr

/-- The style classes of a button of the given role. -/
def ButtonStyle.classes : ButtonStyle → String
  | number => "number"
  | symbol => "symbol"
  | action => "action"
  | actionDull => "action dull"
  | symbolAction => "symbol action"

/-- A button at its place on a keypad. -/
structure Button where
  /-- The id of the element on a page. -/
  id : String
  /-- The text printed on the button. -/
  label : String
  /-- What pressing the button sends. -/
  message : Message
  /-- The row, counted from zero. -/
  row : UInt64
  /-- The column, counted from zero. -/
  col : UInt64
  /-- The visual role. -/
  style : ButtonStyle
deriving DecidableEq, Repr

namespace Operator

/-- The word for an operator in the id of its button. -/
def idWord : Operator → String
  | add => "plus"
  | subtract => "minus"
  | multiply => "times"
  | divide => "divide"
  | modulo => "mod"

/-- What is printed on the button of an operator. -/
def label : Operator → String
  | add => "+"
  | subtract => "-"
  | multiply => "×"
  | divide => "÷"
  | modulo => "MOD"

/-- The visual role of the button of an operator. -/
def style : Operator → ButtonStyle
  | modulo => .actionDull
  | _ => .symbol

end Operator

namespace Message

/-- The last part of the id of the button that sends a message. -/
def idWord : Message → String
  | press (.digit value) => decimalText value.toNat
  | press .decimal => "decimal"
  | press .percent => "percent"
  | press (.operator operator) => operator.idWord
  | equals => "equals"
  | clear => "clear"
  | delete => "delete"

/-- What is printed on the button that sends a message. -/
def label : Message → String
  | press (.digit value) => decimalText value.toNat
  | press .decimal => "."
  | press .percent => "%"
  | press (.operator operator) => operator.label
  | equals => "="
  | clear => "AC"
  | delete => "↵"

/-- The visual role of the button that sends a message. -/
def style : Message → ButtonStyle
  | press (.operator operator) => operator.style
  | press _ => .number
  | equals => .symbolAction
  | clear => .actionDull
  | delete => .action

end Message

/-- The button that sends a message, at the given place. -/
def Button.ofMessage (message : Message) (row col : UInt64) : Button :=
  { id := "btn-" ++ message.idWord, label := message.label, message, row, col,
    style := message.style }

end PocketCalculator
