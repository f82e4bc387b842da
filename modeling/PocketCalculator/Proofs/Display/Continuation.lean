import PocketCalculator.Command.Session
import PocketCalculator.Proofs.Display.Typing
import PocketCalculator.Proofs.Expression.ReadBack

/-!
# Continuing from a result

A result that is shown is text again, and an operator typed after it makes that
text the left part of a new expression.  The text is read as the number that it
shows, up to the sign of zero, and an operator in an expression leaves of the text
before it nothing but its value.

**Equals before an operator changes neither what is shown in the end nor the
failure**, and **a percent sign after a result takes one hundredth of it**
(`equals_before_key`).
-/

set_option autoImplicit false

namespace PocketCalculator

open Binary64 (SameNumber)

/-! ## Texts with a value -/

namespace Evaluation

/-- The word for an error has no value. -/
theorem ne_errorText_of_evaluate {text : String} {value : Binary64}
    (evaluated : evaluate text = .ok value) : text ≠ errorText := by
  rintro rfl
  have noToken : Token.ofString errorText = [] := by decide +kernel
  exact ofString_ne_nil_of_evaluate evaluated noToken

end Evaluation

/-! ## Equals -/

theorem SameOutcome.outcomeText_eq {first second : Outcome} (same : SameOutcome first second) :
    DisplayState.outcomeText first = DisplayState.outcomeText second := by
  cases same with
  | ok same => exact resultText_congr same
  | error failure => rfl

theorem SameOutcome.error?_eq {first second : Outcome} (same : SameOutcome first second) :
    first.error? = second.error? := by
  cases same with
  | ok same => rfl
  | error failure => rfl

namespace DisplayState

/-- Equals shows the same and fails in the same way for texts of the same outcome. -/
theorem update_equals_congr {first second : DisplayState}
    (same : SameOutcome (Evaluation.evaluate first.text) (Evaluation.evaluate second.text)) :
    (first.update .equals).1 = (second.update .equals).1 ∧
      (first.update .equals).2.bind Outcome.error? =
        (second.update .equals).2.bind Outcome.error? := by
  rw [update_equals, update_equals]
  dsimp only [Option.bind_some]
  rw [same.outcomeText_eq]
  exact ⟨rfl, same.error?_eq⟩

/-- Typing an operator and further keys adds their texts, whether the text before
them is an entry or a result. -/
theorem run_operator_presses {state : DisplayState} (noError : state.text ≠ errorText)
    (operator : Operator) (keys : List Key) :
    state.run ((Key.operator operator :: keys).map Message.press) =
      { text := state.text ++ operator.symbol ++ Key.typedText keys, isResult := false } := by
  have typed : (state.update (.press (.operator operator))).1
      = { text := state.text ++ operator.symbol, isResult := false } :=
    appendValue_of_not_numeric rfl noError
  rw [List.map_cons, run_cons, typed]
  exact run_presses rfl (append_text_ne_errorText state.text (.operator operator)) keys

section Evaluated

variable {state : DisplayState} {value : Binary64}
  (evaluated : Evaluation.evaluate state.text = .ok value)
include evaluated

/-- After an operator the outcome depends on the value of the text before it. -/
theorem evaluate_operator_presses (operator : Operator) (keys : List Key) :
    Evaluation.evaluate (state.run ((Key.operator operator :: keys).map Message.press)).text =
      Evaluation.evaluateTokens
        (.number value false :: .operator operator :: Token.ofString (Key.typedText keys)) := by
  rw [run_operator_presses (Evaluation.ne_errorText_of_evaluate evaluated),
    Evaluation.evaluate_eq_bind (Evaluation.ofString_ne_nil_of_evaluate evaluated), evaluated]
  rfl

/-- **Continuing from a result works on its value.** For a text with a value that
the display writes out, Equals before an operator changes neither the state in which
the display ends nor the failure, whatever is typed after the operator; and a percent
sign after the result shows one hundredth of the value. -/
theorem equals_before_key (plain : ShownPlain value) :
    (∀ (operator : Operator) (keys : List Key),
      let presses := (Key.operator operator :: keys).map Message.press
      state.run (.equals :: presses ++ [.equals]) = state.run (presses ++ [.equals]) ∧
        ((state.run (.equals :: presses)).update .equals).2.bind Outcome.error? =
          ((state.run presses).update .equals).2.bind Outcome.error?) ∧
      (state.run [.equals, .press .percent, .equals]).text
        = resultText (value.div Token.hundred) := by
  constructor
  · intro operator keys presses
    obtain ⟨read, reads, same⟩ := evaluate_resultText plain
    have result : Evaluation.evaluate
        ({ text := resultText value, isResult := true } : DisplayState).text = .ok read := reads
    have outcome : SameOutcome
        (Evaluation.evaluate (state.run (.equals :: presses)).text)
        (Evaluation.evaluate (state.run presses).text) := by
      rw [run_equals_cons evaluated, evaluate_operator_presses result,
        evaluate_operator_presses evaluated]
      exact Evaluation.evaluateTokens_congr same _
    have equals := update_equals_congr outcome
    rw [run_append, run_append]
    exact equals
  · obtain ⟨read, reads, same⟩ := evaluate_resultText_percent plain
    obtain ⟨_, number, _⟩ := evaluate_resultText plain
    have noError :
        ({ text := resultText value, isResult := true } : DisplayState).text ≠ errorText :=
      Evaluation.ne_errorText_of_evaluate number
    have notNumeric : Key.percent.isNumeric = false := rfl
    have typed : (({ text := resultText value, isResult := true } : DisplayState).update
          (.press .percent)).1
        = { text := resultText value ++ "%", isResult := false } :=
      appendValue_of_not_numeric notNumeric noError
    have hundredth : Evaluation.evaluate
        ({ text := resultText value ++ "%", isResult := false } : DisplayState).text = .ok read :=
      reads
    rw [run_equals_cons evaluated, run_cons, typed, run_equals_cons hundredth, run_nil]
    exact resultText_congr same

end Evaluated

/-- A negative result is read as zero minus its digits. -/
theorem equals_before_key_negative :
    Evaluation.evaluate "2-5" = .ok (Binary64.ofNat 3).neg ∧ ShownPlain (Binary64.ofNat 3).neg ∧
      (({ text := "2-5" } : DisplayState).run [.equals, .press .percent, .equals]).text
        = resultText ((Binary64.ofNat 3).neg.div Token.hundred) := by
  have evaluated : Evaluation.evaluate ({ text := "2-5" } : DisplayState).text
      = .ok (Binary64.ofNat 3).neg := by decide +kernel
  have plain : ShownPlain (Binary64.ofNat 3).neg := by decide +kernel
  exact ⟨evaluated, plain, (equals_before_key evaluated plain).2⟩

end DisplayState

end PocketCalculator
