import PocketCalculator.Number.Numeral

/-!
# Emphasis on a terminal

A text is emphasised by the codes of a terminal before it and the code that ends
all emphasis after it.
-/

set_option autoImplicit false

namespace PocketCalculator
namespace Text

/-- What a text is emphasised as. -/
inductive Emphasis where
  | success
  | failure
  | aside
deriving DecidableEq, Repr

/-- The numbers of the codes of an emphasis: green and bold, red and bold, dim. -/
def Emphasis.codes : Emphasis → List Nat
  | success => [32, 1]
  | failure => [31, 1]
  | aside => [2]

/-- The terminal code with the given number. -/
def terminalCode (number : Nat) : String := "\x1b[" ++ decimalText number ++ "m"

/-- The text with an emphasis, if colours are used. -/
def emphasize (emphasis : Emphasis) (useColor : Bool) (text : String) : String :=
  if useColor then
    String.join (emphasis.codes.map terminalCode) ++ text ++ terminalCode 0
  else text

end Text
end PocketCalculator
