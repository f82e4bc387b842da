import PocketCalculator.Display.State
import PocketCalculator.Json.Form
import PocketCalculator.Json.Number
import PocketCalculator.Keypad.Grid
import PocketCalculator.Settings

/-!
# Stored forms

The JSON form of every type whose values are kept or handed to a page.  For each
type there is a writer `toJson` and a reader `ofJson?`; the reader accepts what the
writer makes, and the other spellings that `PocketCalculator.Json.Form` allows.
-/

set_option autoImplicit false

namespace PocketCalculator

/-! ## Operators, tokens, keys and messages -/

namespace Operator

/-- An operator is stored by name. -/
def toJson (operator : Operator) : Json := .ofText operator.name

/-- Reads an operator. -/
def ofJson? (json : Json) : Option Operator := json.named? all name

end Operator

namespace Token

/-- The names of the fields of a stored number. -/
def numberFields : List String := ["value", "percent"]

/-- A token is stored as a choice between a number and an operator. -/
def toJson : Token → Json
  | number literal percent =>
      .holding "Number" (.record [("value", .ofBinary64 literal), ("percent", .bool percent)])
  | operator symbol => .holding "Operator" symbol.toJson

/-- Reads what a number token holds. -/
def numberOfJson? (json : Json) : Option Token :=
  match json.fields? numberFields with
  | some [value, percent] => do return number (← value.binary64?) (← percent.bool?)
  | _ => none

/-- Reads a token. -/
def ofJson? (json : Json) : Option Token :=
  match json.choice? with
  | some ("Number", some content) => numberOfJson? content
  | some ("Operator", some content) => (Operator.ofJson? content).map operator
  | _ => none

end Token

namespace Key

/-- The keys that are stored by name alone. -/
def plain : List Key := [decimal, percent]

/-- The name under which a key is stored. -/
def name : Key → String
  | digit _ => "Digit"
  | decimal => "Decimal"
  | percent => "Percent"
  | operator _ => "Operator"

/-- A key is stored as a choice. -/
def toJson : Key → Json
  | digit value => .holding "Digit" (.ofNat value.toNat)
  | operator symbol => .holding "Operator" symbol.toJson
  | key => .ofText key.name

/-- Reads a key. -/
def ofJson? (json : Json) : Option Key :=
  match json.choice? with
  | some ("Digit", some content) =>
      (content.natural? (UInt8.size - 1)).map fun value => digit (.ofNat value)
  | some ("Operator", some content) => (Operator.ofJson? content).map operator
  | _ => json.named? plain name

end Key

namespace Message

/-- The messages that are stored by name alone. -/
def plain : List Message := [equals, clear, delete]

/-- The name under which a message is stored. -/
def name : Message → String
  | press _ => "Press"
  | equals => "Equals"
  | clear => "Clear"
  | delete => "Delete"

/-- A message is stored as a choice. -/
def toJson : Message → Json
  | press key => .holding "Press" key.toJson
  | message => .ofText message.name

/-- Reads a message. -/
def ofJson? (json : Json) : Option Message :=
  match json.choice? with
  | some ("Press", some content) => (Key.ofJson? content).map press
  | _ => json.named? plain name

end Message

/-! ## The display -/

namespace Phase

/-- All phases. -/
def all : List Phase := [empty, entering, resultShown, errorShown]

/-- The name under which a phase is stored. -/
def name : Phase → String
  | empty => "Empty"
  | entering => "Entering"
  | resultShown => "ResultShown"
  | errorShown => "ErrorShown"

/-- A phase is stored by name. -/
def toJson (phase : Phase) : Json := .ofText phase.name

/-- Reads a phase. -/
def ofJson? (json : Json) : Option Phase := json.named? all name

end Phase

namespace DisplayState

/-- The names of the fields of a stored display. -/
def fieldNames : List String := ["text", "is_result"]

/-- A display is stored with its text and its flag. -/
def toJson (state : DisplayState) : Json :=
  .record [("text", .ofText state.text), ("is_result", .bool state.isResult)]

/-- Reads a display. -/
def ofJson? (json : Json) : Option DisplayState :=
  match json.fields? fieldNames with
  | some [text, isResult] => do return { text := ← text.text?, isResult := ← isResult.bool? }
  | _ => none

end DisplayState

/-! ## Buttons -/

namespace ButtonStyle

/-- All roles of buttons. -/
def all : List ButtonStyle := [number, symbol, action, actionDull, symbolAction]

/-- The name under which a role is stored. -/
def name : ButtonStyle → String
  | number => "Number"
  | symbol => "Symbol"
  | action => "Action"
  | actionDull => "ActionDull"
  | symbolAction => "SymbolAction"

/-- A role is stored by name. -/
def toJson (style : ButtonStyle) : Json := .ofText style.name

/-- Reads a role. -/
def ofJson? (json : Json) : Option ButtonStyle := json.named? all name

end ButtonStyle

namespace Button

/-- The names of the fields of a stored button. -/
def fieldNames : List String := ["id", "label", "message", "row", "col", "style"]

/-- A button is stored with all its fields. -/
def toJson (button : Button) : Json :=
  .record [("id", .ofText button.id), ("label", .ofText button.label),
    ("message", button.message.toJson), ("row", .ofNat button.row.toNat),
    ("col", .ofNat button.col.toNat), ("style", button.style.toJson)]

/-- Reads a place on a grid, a number of 64 bits. -/
def placeOfJson? (json : Json) : Option UInt64 :=
  (json.natural? (UInt64.size - 1)).map UInt64.ofNat

/-- Reads a button. -/
def ofJson? (json : Json) : Option Button :=
  match json.fields? fieldNames with
  | some [id, label, message, row, col, style] => do
      return {
        id := ← id.text?
        label := ← label.text?
        message := ← Message.ofJson? message
        row := ← placeOfJson? row
        col := ← placeOfJson? col
        style := ← ButtonStyle.ofJson? style }
  | _ => none

end Button

/-- The layout of the keypad as a page renders it. -/
def Keypad.toJson : Json := .array (Keypad.buttons.map Button.toJson)

/-! ## Settings -/

namespace Verbosity

/-- A degree of verbosity is stored by name. -/
def toJson (verbosity : Verbosity) : Json := .ofText verbosity.name

/-- Reads a degree of verbosity. -/
def ofJson? (json : Json) : Option Verbosity := json.named? all name

end Verbosity

namespace ColorChoice

/-- A choice of colour is stored by name. -/
def toJson (choice : ColorChoice) : Json := .ofText choice.name

/-- Reads a choice of colour. -/
def ofJson? (json : Json) : Option ColorChoice := json.named? all name

end ColorChoice

namespace OutputFormat

/-- A format is stored by name. -/
def toJson (format : OutputFormat) : Json := .ofText format.name

/-- Reads a format. -/
def ofJson? (json : Json) : Option OutputFormat := json.named? all name

end OutputFormat

namespace Settings

/-- The names of the fields of stored settings. -/
def fieldNames : List String := ["verbosity", "color", "format"]

/-- Settings are stored with all their fields. -/
def toJson (settings : Settings) : Json :=
  .record [("verbosity", settings.verbosity.toJson), ("color", settings.color.toJson),
    ("format", settings.format.toJson)]

/-- Reads settings. -/
def ofJson? (json : Json) : Option Settings :=
  match json.fields? fieldNames with
  | some [verbosity, color, format] => do
      return {
        verbosity := ← Verbosity.ofJson? verbosity
        color := ← ColorChoice.ofJson? color
        format := ← OutputFormat.ofJson? format }
  | _ => none

end Settings

end PocketCalculator
