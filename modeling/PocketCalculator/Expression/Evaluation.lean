import PocketCalculator.Expression.Lexer

/-!
# Left-to-right evaluation

There is no precedence.  The first token gives the running value.  After it an
operator waits for the next number, a later operator taking its place, and a
number is combined with the running value by the operator that waits.  The first
failure ends the evaluation.
-/

set_option autoImplicit false

namespace PocketCalculator
namespace Evaluation

/-- The state of an evaluation between two tokens. -/
structure Progress where
  /-- The running value. -/
  total : Binary64
  /-- The operator that waits for its right operand. -/
  pending : Option Operator := none
deriving DecidableEq, Repr

/-- The effect of one token after the first. -/
def Progress.step (progress : Progress) : Token → Except CalculationError Progress
  | .operator operator => .ok { progress with pending := some operator }
  | .number literal percent =>
      match progress.pending with
      | none => .error .missingOperator
      | some operator =>
          match operator.apply progress.total (Token.value (.number literal percent)) with
          | .ok total => .ok { total }
          | .error error => .error error

/-- The effect of a row of tokens after the first. -/
def Progress.run (progress : Progress) : List Token → Except CalculationError Progress
  | [] => .ok progress
  | token :: rest =>
      match progress.step token with
      | .ok next => next.run rest
      | .error error => .error error

/-- The value of a row of tokens; an operator at its end has no effect. -/
def evaluateTokens : List Token → Outcome
  | [] => .error .invalidExpression
  | first :: rest =>
      match Progress.run { total := first.value } rest with
      | .ok progress => .ok progress.total
      | .error error => .error error

/-- The text that is read for an expression: a minus sign at its start
subtracts from zero. -/
def readable : List Char → List Char
  | '-' :: rest => '0' :: '-' :: rest
  | text => text

/-- The value of an expression. -/
def evaluate (expression : String) : Outcome :=
  evaluateTokens (Token.ofChars (readable expression.toList))

/-- Running a row of tokens is running its parts in turn. -/
theorem run_append (progress : Progress) (first second : List Token) :
    progress.run (first ++ second) =
      match progress.run first with
      | .ok middle => middle.run second
      | .error error => .error error := by
  induction first generalizing progress with
  | nil => rfl
  | cons token rest ih =>
      simp only [List.cons_append, Progress.run]
      cases progress.step token with
      | ok next => exact ih next
      | error error => rfl

end Evaluation
end PocketCalculator
