import PocketCalculator.Proofs.Display.Typing
import PocketCalculator.Proofs.Expression.WholeNumbers

/-!
# Whole calculations on the display

A whole calculation is typed with one key for each digit and one for each operator.
The keys type its expression (`Key.typedText_wholeKeys`), whose value is the total, and
a whole number is shown as its decimal spelling.

**Whole calculations are exact from the keys to the display**
(`DisplayState.run_wholeKeys`).
-/

set_option autoImplicit false

namespace PocketCalculator

namespace Key

/-! ## The keys of a calculation -/

/-- The key of a digit. -/
def ofDigit (value : Digit) : Key := .digit (UInt8.ofNat value.val)

/-- The keys of a natural number, one for each digit. -/
def ofNat (n : Nat) : List Key := (Digits.ofNat n).map ofDigit

/-- The keys of an operator and the number after it. -/
def ofStep (step : Operator × Nat) : List Key := .operator step.1 :: ofNat step.2

/-- The keys of a whole calculation. -/
def wholeKeys (first : Nat) (steps : List (Operator × Nat)) : List Key :=
  ofNat first ++ steps.flatMap ofStep

/-! ## What the keys type -/

theorem text_ofDigit (value : Digit) :
    (ofDigit value).text = String.ofList [Digit.toChar value] := by
  revert value
  decide +kernel

theorem typedText_digits (digits : Digits) :
    typedText (digits.map ofDigit) = String.ofList digits.toChars := by
  induction digits with
  | nil => rfl
  | cons digit rest ih =>
      rw [List.map_cons, typedText, ih, text_ofDigit, ← String.ofList_append]
      rfl

theorem typedText_ofNat (n : Nat) : typedText (ofNat n) = toString n := by
  rw [ofNat, typedText_digits, ← decimalText_eq_toString, decimalText]

/-- The keys of steps type what the steps append. -/
theorem typedText_steps (text : String) (steps : List (Operator × Nat)) :
    text ++ typedText (steps.flatMap ofStep) = steps.foldl appendStep text := by
  induction steps generalizing text with
  | nil => exact String.append_empty
  | cons step rest ih =>
      rw [List.flatMap_cons, typedText_append, ofStep, typedText, typedText_ofNat,
        List.foldl_cons, ← ih, appendStep, text.append_assoc, text.append_assoc]
      rfl

theorem typedText_wholeKeys (first : Nat) (steps : List (Operator × Nat)) :
    typedText (wholeKeys first steps) = wholeExpression first steps := by
  rw [wholeKeys, typedText_append, typedText_ofNat, typedText_steps, wholeExpression]

end Key

namespace DisplayState

/-- **Whole calculations are exact from end to end.** The value of the expression of a
whole calculation is its total, up to the sign of zero; and its keys and Equals show
the decimal spelling of the total on a new display. -/
theorem run_wholeKeys {first : Nat} {steps : List (Operator × Nat)} {final : Int}
    (exact : wholeTotal? first steps = some final) :
    (∃ value, Evaluation.evaluate (wholeExpression first steps) = .ok value ∧
      value.IsWhole final) ∧
      empty.run ((Key.wholeKeys first steps).map Message.press ++ [.equals]) =
        { text := toString final, isResult := true } := by
  obtain ⟨value, evaluated, whole⟩ := evaluate_wholeExpression exact
  refine ⟨⟨value, evaluated, whole⟩, ?_⟩
  have typed : empty.run ((Key.wholeKeys first steps).map Message.press)
      = { text := wholeExpression first steps, isResult := false } := by
    have noError : empty.text ≠ errorText := by decide
    rw [run_presses rfl noError, Key.typedText_wholeKeys]
    exact congrArg (fun text => ({ text, isResult := false } : DisplayState)) String.empty_append
  have shown :
      Evaluation.evaluate
        ({ text := wholeExpression first steps, isResult := false } : DisplayState).text
          = .ok value :=
    evaluated
  rw [run_append, typed, run_equals_cons shown, run_nil,
    resultText_of_isWhole whole (natAbs_final_lt exact)]

/-- A negative zero on the way is not seen. -/
theorem run_wholeKeys_negative_zero :
    wholeTotal? (0 : Nat) [(.subtract, 5), (.multiply, 0), (.subtract, 9007199254740991)]
        = some (-9007199254740991) ∧
      empty.run ((Key.wholeKeys 0
          [(.subtract, 5), (.multiply, 0), (.subtract, 9007199254740991)]).map Message.press
            ++ [.equals]) =
        { text := "-9007199254740991", isResult := true } := by
  have exact : wholeTotal? (0 : Nat)
      [(.subtract, 5), (.multiply, 0), (.subtract, 9007199254740991)]
        = some (-9007199254740991) := by decide +kernel
  exact ⟨exact, (run_wholeKeys exact).2⟩

end DisplayState

end PocketCalculator
