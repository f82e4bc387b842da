import PocketCalculator.Proofs.Display.Typing
import PocketCalculator.Proofs.Expression.LeftToRight
import PocketCalculator.Proofs.Number.CanonicalText
import PocketCalculator.Proofs.Number.ResultLetters

/-!
# Evaluations that are lost to NaN

No operator makes a number out of a NaN on its left, so a running value that is NaN stays
NaN, whatever tokens follow and whichever operator waits: a step from it leads to a NaN or
to a failure (`poisoned_step`), and so does a run (`poisoned_run`).

**What has the value NaN has no number as its value with more tokens after it**
(`noNumber_append`).  An operator as the first token has that value.  A text whose first
token is an operator is therefore never shown as a number, unless a minus sign at its front
is read after a zero (`DisplayState.nan_absorbing`).
-/

set_option autoImplicit false

namespace PocketCalculator

namespace Evaluation

/-- An outcome that is not a number: NaN or a failure. -/
inductive NoNumber : Outcome → Prop where
  | nan : NoNumber (.ok .nan)
  | error (failure : CalculationError) : NoNumber (.error failure)

/-- An evaluation between two tokens that no longer leads to a number: its running value is
NaN, or it has failed. -/
inductive Poisoned : Except CalculationError Progress → Prop where
  | nan (pending : Option Operator) : Poisoned (.ok { total := .nan, pending })
  | error (failure : CalculationError) : Poisoned (.error failure)

/-- No token recovers a number from a running value of NaN. -/
theorem poisoned_step (pending : Option Operator) (token : Token) :
    Poisoned (Progress.step { total := .nan, pending } token) := by
  cases token with
  | operator symbol => exact .nan (some symbol)
  | number literal percent =>
      cases pending with
      | none => exact .error .missingOperator
      | some symbol =>
          rw [Progress.step]
          dsimp only
          rcases symbol.apply_nan (Token.value (.number literal percent)) with same | failed
          · rw [same]
            exact .nan none
          · rw [failed]
            exact .error .divisionByZero

/-- **A running value of NaN stays NaN until the run ends or fails.** -/
theorem poisoned_run (pending : Option Operator) (tokens : List Token) :
    Poisoned (Progress.run { total := .nan, pending } tokens) := by
  induction tokens generalizing pending with
  | nil => exact .nan pending
  | cons token rest ih =>
      have step := poisoned_step pending token
      rw [Progress.run]
      generalize Progress.step { total := .nan, pending } token = outcome at step ⊢
      cases step with
      | nan next => exact ih next
      | error failure => exact .error failure

/-- **NaN is absorbing**: more tokens do not make a number out of it. -/
theorem noNumber_append {tokens : List Token} (value : evaluateTokens tokens = .ok .nan)
    (more : List Token) : NoNumber (evaluateTokens (tokens ++ more)) := by
  cases tokens with
  | nil => exact absurd value nofun
  | cons first rest =>
      rw [evaluateTokens] at value
      rw [List.cons_append, evaluateTokens, run_append]
      cases run : Progress.run { total := first.value } rest with
      | error failure => exact .error failure
      | ok progress =>
          rw [run] at value
          obtain ⟨total, pending⟩ := progress
          obtain rfl : total = .nan := Except.ok.inj value
          have run := poisoned_run pending more
          dsimp only
          generalize Progress.run { total := .nan, pending } more = outcome at run ⊢
          cases run with
          | nan next => exact .nan
          | error failure => exact .error failure

/-- An operator as the first token leaves no number as the value. -/
theorem noNumber_of_operator (symbol : Operator) (rest : List Token) :
    NoNumber (evaluateTokens (.operator symbol :: rest)) := by
  have alone : evaluateTokens [.operator symbol] = .ok .nan := rfl
  exact noNumber_append alone rest

/-- A text whose first token is an operator has no number as its value, unless it begins with
a minus sign. -/
theorem noNumber_evaluate {text : String} {symbol : Operator} {rest : List Token}
    (first : Token.ofString text = .operator symbol :: rest)
    (noMinus : ∀ after, text.toList ≠ '-' :: after) : NoNumber (evaluate text) := by
  rw [Token.ofString] at first
  rw [evaluate, readable_of_ne_minus noMinus, first]
  exact noNumber_of_operator symbol rest

end Evaluation

namespace DisplayState

open Evaluation (NoNumber evaluate evaluateTokens noNumber_append noNumber_evaluate)

/-- What is not a number is shown as one of two words. -/
theorem outcomeText_of_noNumber {outcome : Outcome} (noNumber : NoNumber outcome) :
    outcomeText outcome = "NaN" ∨ outcomeText outcome = "Error" := by
  cases noNumber with
  | nan => exact .inl rfl
  | error failure => exact .inr rfl

/-- These words show no number. -/
theorem outcomeText_ne_of_noNumber {outcome : Outcome} (noNumber : NoNumber outcome)
    {x : Binary64} (number : x ≠ .nan) : outcomeText outcome ≠ resultText x := by
  cases noNumber with
  | nan =>
      intro same
      rcases (resultText_eq_iff .nan x).mp same with equal | ⟨zero, _⟩
      · exact number equal.symm
      · exact absurd zero Bool.false_ne_true
  | error failure => exact (resultText_ne_errorText x).symm

/-- **NaN is absorbing, and an operator at the start leads to it.** With the value NaN a row of
tokens has no number as its value however it goes on.  A text whose first token is an
operator and that does not begin with a minus sign has no number as its value; Equals shows
one of the two words for that, and neither is the text of a number. -/
theorem nan_absorbing :
    (∀ tokens more : List Token, evaluateTokens tokens = .ok .nan →
      NoNumber (evaluateTokens (tokens ++ more))) ∧
    ∀ (state : DisplayState) (symbol : Operator) (rest : List Token),
      Token.ofString state.text = .operator symbol :: rest →
      (∀ after, state.text.toList ≠ '-' :: after) →
      NoNumber (evaluate state.text) ∧
      ((state.run [.equals]).text = "NaN" ∨ (state.run [.equals]).text = "Error") ∧
      ∀ x, x ≠ .nan → (state.run [.equals]).text ≠ resultText x := by
  refine ⟨fun tokens more value => noNumber_append value more, ?_⟩
  intro state symbol rest first noMinus
  have noNumber := noNumber_evaluate first noMinus
  have shown : (state.run [.equals]).text = outcomeText (evaluate state.text) := rfl
  rw [shown]
  exact ⟨noNumber, outcomeText_of_noNumber noNumber,
    fun x number => outcomeText_ne_of_noNumber noNumber number⟩

end DisplayState
end PocketCalculator
