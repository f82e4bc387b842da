import PocketCalculator.Proofs.Display.Coherence
import PocketCalculator.Proofs.Expression.FixedResults

/-!
# Equals on a shown outcome

Equals reads what is shown as an expression, and what is shown need not be read as it
was meant.  The word for an error is an expression without a value, so it stays, and so
does a result that is written out.  A power of ten is read as an operation, and the
words for the numbers that are not finite have no digits at all.

**A second Equals changes nothing exactly if the first shows an error or a result that
is written out** (`equals_equals_iff`), and then no further Equals does
(`run_replicate_equals`).
-/

set_option autoImplicit false

namespace PocketCalculator
namespace DisplayState

/-- The text after a second Equals. -/
theorem text_equals_equals (state : DisplayState) :
    (state.run [.equals, .equals]).text =
      outcomeText (Evaluation.evaluate (outcomeText (Evaluation.evaluate state.text))) := rfl

/-- A second Equals that keeps the text keeps the display. -/
theorem run_equals_equals {state : DisplayState}
    (same : (state.run [.equals, .equals]).text = (state.run [.equals]).text) :
    state.run [.equals, .equals] = state.run [.equals] :=
  congrArg (fun text => ({ text, isResult := true } : DisplayState)) same

/-- A second Equals keeps the text of an error, and of a result that reads back as it is
shown. -/
theorem text_equals_equals_iff (state : DisplayState) :
    (state.run [.equals, .equals]).text = (state.run [.equals]).text ↔
      ∀ value, Evaluation.evaluate state.text = .ok value → ShownPlain value := by
  rw [text_equals_equals, run_cons, run_nil, update_equals]
  cases Evaluation.evaluate state.text with
  | error failure =>
      refine iff_of_true ?_ nofun
      rw [outcomeText, evaluate_errorText, outcomeText]
  | ok value =>
      rw [outcomeText, outcomeText_evaluate_resultText_iff]
      constructor
      · rintro plain _ ⟨⟩
        exact plain
      · intro plain
        exact plain value rfl

/-- **A second Equals changes neither the text nor the phase exactly if the first shows an
error or a result that is written out.** -/
theorem equals_equals_iff (state : DisplayState) :
    (state.run [.equals, .equals]).text = (state.run [.equals]).text ∧
        (state.run [.equals, .equals]).phase = (state.run [.equals]).phase ↔
      ∀ value, Evaluation.evaluate state.text = .ok value → ShownPlain value := by
  rw [← text_equals_equals_iff]
  constructor
  · rintro ⟨text, _⟩
    exact text
  · intro text
    exact ⟨text, congrArg phase (run_equals_equals text)⟩

/-- One ten-millionth is shown with a power of ten, which is read as one minus seven. -/
theorem not_equals_idempotent :
    ¬ ∀ messages : List Message,
      ((empty.run messages).run [.equals, .equals]).text
          = ((empty.run messages).run [.equals]).text ∧
        ((empty.run messages).run [.equals, .equals]).phase
          = ((empty.run messages).run [.equals]).phase := by
  intro idempotent
  let keys : List Key := [.digit 1, .operator .divide, .digit 1] ++ List.replicate 7 (.digit 0)
  have evaluated : Evaluation.evaluate (empty.run (keys.map Message.press)).text
      = .ok ((Binary64.ofNat 1).div (Binary64.ofNat (10 ^ 7))) := by decide +kernel
  have plain := (text_equals_equals_iff _).mp (idempotent (keys.map Message.press)).1 _ evaluated
  exact absurd plain (by decide +kernel)

/-- If a second Equals keeps the text, no further one changes the display. -/
theorem run_replicate_equals {state : DisplayState}
    (same : (state.run [.equals, .equals]).text = (state.run [.equals]).text) (count : Nat) :
    state.run (List.replicate (count + 1) .equals) = state.run [.equals] := by
  induction count with
  | zero => rfl
  | succ count ih =>
      rw [List.replicate_succ', run_append, ih, ← run_append]
      exact run_equals_equals same

end DisplayState
end PocketCalculator
