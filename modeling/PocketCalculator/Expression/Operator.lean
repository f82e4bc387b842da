import PocketCalculator.Number.Arithmetic

/-!
# Operators

The five operators of the calculator, their names and symbols, and what they do
to two numbers.  Division alone can fail: a divisor of zero, of either sign, is
an error whatever the dividend is.
-/

set_option autoImplicit false

namespace PocketCalculator

/-- Why a calculation has no value. -/
inductive CalculationError where
  | invalidExpression
  | missingOperator
  | divisionByZero
deriving DecidableEq, Repr

/-- The words that name an error to the user. -/
def CalculationError.message : CalculationError → String
  | invalidExpression => "Invalid expression"
  | missingOperator => "Missing operator"
  | divisionByZero => "Division by zero"

/-- The outcome of a calculation. -/
abbrev Outcome := Except CalculationError Binary64

/-- A binary operator. -/
inductive Operator where
  | add
  | subtract
  | multiply
  | divide
  | modulo
deriving DecidableEq, Repr, Inhabited

namespace Operator

/-- All operators. -/
def all : List Operator := [add, subtract, multiply, divide, modulo]

theorem mem_all (operator : Operator) : operator ∈ all := by
  cases operator <;> decide

/-- The name of an operator. -/
def name : Operator → String
  | add => "Add"
  | subtract => "Subtract"
  | multiply => "Multiply"
  | divide => "Divide"
  | modulo => "Modulo"

/-- The characters that write an operator in an expression. -/
def symbolChars : Operator → List Char
  | add => ['+']
  | subtract => ['-']
  | multiply => ['*']
  | divide => ['/']
  | modulo => ['M', 'O', 'D']

/-- The text that writes an operator in an expression. -/
def symbol (operator : Operator) : String := String.ofList operator.symbolChars

/-- The operator whose symbol is exactly the given text. -/
def ofSymbol? (text : String) : Option Operator := all.find? fun operator => operator.symbol == text

/-- The result of an operator on two numbers. -/
def apply (operator : Operator) (left right : Binary64) : Outcome :=
  match operator with
  | add => .ok (left.add right)
  | subtract => .ok (left.sub right)
  | multiply => .ok (left.mul right)
  | divide => if right.isZero then .error .divisionByZero else .ok (left.div right)
  | modulo => .ok (left.remainder right)

/-- Each symbol names its operator. -/
theorem ofSymbol?_symbol (operator : Operator) : ofSymbol? operator.symbol = some operator := by
  cases operator <;> decide

/-- No operator recovers a number from a NaN. -/
theorem apply_nan (operator : Operator) (right : Binary64) :
    operator.apply .nan right = .ok .nan ∨ operator.apply .nan right = .error .divisionByZero := by
  cases operator <;> simp [apply]

end Operator

end PocketCalculator
