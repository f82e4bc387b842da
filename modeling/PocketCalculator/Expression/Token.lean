import PocketCalculator.Expression.Operator
import PocketCalculator.Number.Numeral

/-!
# Tokens

An expression is a row of numbers and operators.  A number may carry a percent
sign, which divides it by one hundred where its value is taken.
-/

set_option autoImplicit false

namespace PocketCalculator

/-- A number or an operator of an expression. -/
inductive Token where
  | number (literal : Binary64) (percent : Bool)
  | operator (operator : Operator)
deriving DecidableEq, Repr

namespace Token

/-- The number one hundred. -/
def hundred : Binary64 := .ofNat 100

/-- The value that a token contributes at the start of an expression.  An
operator has none and contributes NaN. -/
def value : Token → Binary64
  | number literal percent => if percent then literal.div hundred else literal
  | operator _ => .nan

/-- Whether the token is a number. -/
def isNumber : Token → Bool
  | number _ _ => true
  | operator _ => false

/-- Whether the token is an operator. -/
def isOperator : Token → Bool
  | number _ _ => false
  | operator _ => true

end Token

end PocketCalculator
