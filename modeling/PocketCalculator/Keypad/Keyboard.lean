import PocketCalculator.Keypad.Grid

/-!
# The keyboard

The keys of a keyboard that the calculator takes, by the names under which a
browser reports them.
-/

set_option autoImplicit false

namespace PocketCalculator
namespace Keyboard

/-- The keys other than digits. -/
def namedKeys : List (String × Message) :=
  [("=", .equals), ("Enter", .equals),
   ("Escape", .clear), ("c", .clear), ("C", .clear),
   ("Backspace", .delete), ("Delete", .delete),
   (".", .press .decimal), ("%", .press .percent),
   ("+", Keypad.operator .add), ("-", Keypad.operator .subtract),
   ("*", Keypad.operator .multiply), ("/", Keypad.operator .divide),
   ("m", Keypad.operator .modulo), ("M", Keypad.operator .modulo)]

/-- The digit keys. -/
def digitKeys : List (String × Message) :=
  (List.range 10).map fun value => (decimalText value, Keypad.digit (UInt8.ofNat value))

/-- The message that a key of the keyboard sends. -/
def message? (key : String) : Option Message :=
  ((namedKeys ++ digitKeys).find? fun entry => entry.1 == key).map Prod.snd

end Keyboard
end PocketCalculator
