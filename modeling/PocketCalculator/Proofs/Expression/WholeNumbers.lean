import PocketCalculator.Proofs.Expression.ReadBack
import PocketCalculator.Proofs.Number.WholeText

/-!
# Whole calculations

A whole calculation starts from a natural number and applies operators to natural
numbers from left to right.  Its total is an integer (`wholeTotal?`) as long as every
division leaves no remainder, no divisor is zero, and every number and every total on
the way lies below 2⁵³.

**The expression of a whole calculation has its total as its value**
(`evaluate_wholeExpression`).  One operator keeps a whole number whole
(`Operator.apply_whole`), and the expression grows by one operator and one literal at
its end, so the result is by induction on the steps.
-/

set_option autoImplicit false

namespace PocketCalculator

/-! ## Totals -/

/-- The result of an operator on an integer and a natural number, where it is an
integer.  The remainder has the sign of the dividend. -/
def Operator.applyWhole? (operator : Operator) (left : Int) (right : Nat) : Option Int :=
  match operator with
  | add => some (left + right)
  | subtract => some (left - right)
  | multiply => some (left * right)
  | divide => if right ≠ 0 ∧ (right : Int) ∣ left then some (left / right) else none
  | modulo => if right ≠ 0 then some (left.tmod right) else none

/-- The total of the steps of a whole calculation, from left to right. -/
def wholeTotal? (total : Int) : List (Operator × Nat) → Option Int
  | [] => if total.natAbs < wholeBound then some total else none
  | (operator, operand) :: rest =>
      if total.natAbs < wholeBound ∧ operand < wholeBound then
        (operator.applyWhole? total operand).bind fun next => wholeTotal? next rest
      else none

/-- The total is below the bound from the start. -/
theorem natAbs_lt_of_wholeTotal? {total final : Int} {steps : List (Operator × Nat)}
    (exact : wholeTotal? total steps = some final) : total.natAbs < wholeBound := by
  cases steps with
  | nil =>
      by_contra large
      rw [wholeTotal?, if_neg large] at exact
      contradiction
  | cons step rest =>
      by_contra large
      rw [wholeTotal?, if_neg fun both => large both.1] at exact
      contradiction

/-- The total of a calculation with a first step. -/
theorem wholeTotal?_cons {total final : Int} {operator : Operator} {operand : Nat}
    {rest : List (Operator × Nat)}
    (exact : wholeTotal? total ((operator, operand) :: rest) = some final) :
    operand < wholeBound ∧
      ∃ next, operator.applyWhole? total operand = some next ∧
        wholeTotal? next rest = some final := by
  by_cases small : total.natAbs < wholeBound ∧ operand < wholeBound
  · rw [wholeTotal?, if_pos small, Option.bind_eq_some_iff] at exact
    exact ⟨small.2, exact⟩
  · rw [wholeTotal?, if_neg small] at exact
    contradiction

/-- The last total is below the bound. -/
theorem natAbs_final_lt {total final : Int} {steps : List (Operator × Nat)}
    (exact : wholeTotal? total steps = some final) : final.natAbs < wholeBound := by
  induction steps generalizing total with
  | nil =>
      have small := natAbs_lt_of_wholeTotal? exact
      rw [wholeTotal?, if_pos small] at exact
      obtain rfl := Option.some.inj exact
      exact small
  | cons step rest ih =>
      obtain ⟨_, next, _, later⟩ := wholeTotal?_cons exact
      exact ih later

/-! ## One operator -/

/-- **An operator is exact on whole numbers.** -/
theorem Operator.apply_whole {operator : Operator} {x y : Binary64} {left next : Int} {right : Nat}
    (applied : operator.applyWhole? left right = some next) (wholeLeft : x.IsWhole left)
    (wholeRight : y.IsWhole right) (smallLeft : left.natAbs < wholeBound)
    (small : next.natAbs < wholeBound) :
    ∃ value, operator.apply x y = .ok value ∧ value.IsWhole next := by
  cases operator with
  | add =>
      obtain rfl := Option.some.inj applied
      exact ⟨_, rfl, wholeLeft.add wholeRight small⟩
  | subtract =>
      obtain rfl := Option.some.inj applied
      exact ⟨_, rfl, wholeLeft.sub wholeRight small⟩
  | multiply =>
      obtain rfl := Option.some.inj applied
      exact ⟨_, rfl, wholeLeft.mul wholeRight small⟩
  | divide =>
      by_cases divides : right ≠ 0 ∧ (right : Int) ∣ left
      · rw [applyWhole?, if_pos divides] at applied
        obtain rfl := Option.some.inj applied
        have nonzero : (right : Int) ≠ 0 := by exact_mod_cast divides.1
        have notZero : ¬ y.isZero = true := (not_congr wholeRight.isZero_iff).mpr nonzero
        rw [← Int.ediv_mul_cancel divides.2] at wholeLeft
        exact ⟨_, if_neg notZero, wholeLeft.div wholeRight nonzero small⟩
      · rw [applyWhole?, if_neg divides] at applied
        contradiction
  | modulo =>
      by_cases nonzero : right ≠ 0
      · rw [applyWhole?, if_pos nonzero] at applied
        obtain rfl := Option.some.inj applied
        exact ⟨_, rfl, wholeLeft.remainder wholeRight (by exact_mod_cast nonzero) smallLeft⟩
      · rw [applyWhole?, if_neg nonzero] at applied
        contradiction

/-! ## Literals -/

theorem isWhole_literal {n : Nat} (small : n < wholeBound) :
    (Numeral.toBinary64 { whole := Digits.ofNat n }).IsWhole n := by
  have ratio : Numeral.ratio { whole := Digits.ofNat n } = (n, 1) := by
    rw [Numeral.ratio, List.append_nil, Digits.value_ofNat]
    rfl
  have whole := Binary64.isWhole_nearest false small Nat.one_pos
  rw [Nat.mul_one, Binary64.signed_false] at whole
  unfold Numeral.toBinary64
  rw [ratio]
  exact whole

theorem ofString_toString (n : Nat) :
    Token.ofString (toString n) =
      [.number (Numeral.toBinary64 { whole := Digits.ofNat n }) false] := by
  have tokens := Evaluation.ofChars_literal (Digits.ofNat_ne_nil n) .absent .absent
  rw [List.append_nil, List.append_nil] at tokens
  rw [← decimalText_eq_toString, decimalText, Token.ofString, String.toList_ofList, tokens]

theorem evaluate_toString {n : Nat} (small : n < wholeBound) :
    ∃ value, Evaluation.evaluate (toString n) = .ok value ∧ value.IsWhole n := by
  have read := Evaluation.evaluate_signed_literal (Digits.ofNat_ne_nil n) .absent .absent false
  rw [List.append_nil, List.append_nil, if_neg Bool.false_ne_true, value_literal] at read
  rw [← decimalText_eq_toString, decimalText]
  exact ⟨_, read, isWhole_literal small⟩

/-! ## Expressions -/

/-- An expression with an operator and a number after it. -/
def appendStep (text : String) (step : Operator × Nat) : String :=
  text ++ step.1.symbol ++ toString step.2

/-- The expression of a whole calculation. -/
def wholeExpression (first : Nat) (steps : List (Operator × Nat)) : String :=
  steps.foldl appendStep (toString first)

/-- A step at the end of an expression applies its operator to the value. -/
theorem evaluate_appendStep {text : String} {value : Binary64}
    (evaluated : Evaluation.evaluate text = .ok value) (operator : Operator) (operand : Nat) :
    Evaluation.evaluate (appendStep text (operator, operand)) =
      operator.apply value (Numeral.toBinary64 { whole := Digits.ofNat operand }) := by
  rw [appendStep, Evaluation.evaluate_eq_bind (Evaluation.ofString_ne_nil_of_evaluate evaluated),
    evaluated, ofString_toString]
  have applied := Evaluation.evaluateTokens_operation operator value
    (Numeral.toBinary64 { whole := Digits.ofNat operand }) false
  rw [value_literal] at applied
  exact applied

/-- Whole steps after an expression with a whole value. -/
theorem evaluate_steps {text : String} {value : Binary64} {total final : Int}
    {steps : List (Operator × Nat)} (evaluated : Evaluation.evaluate text = .ok value)
    (whole : value.IsWhole total) (exact : wholeTotal? total steps = some final) :
    ∃ result, Evaluation.evaluate (steps.foldl appendStep text) = .ok result ∧
      result.IsWhole final := by
  induction steps generalizing text value total with
  | nil =>
      have small := natAbs_lt_of_wholeTotal? exact
      rw [wholeTotal?, if_pos small] at exact
      obtain rfl := Option.some.inj exact
      exact ⟨value, evaluated, whole⟩
  | cons step rest ih =>
      obtain ⟨operator, operand⟩ := step
      obtain ⟨smallOperand, next, applied, later⟩ := wholeTotal?_cons exact
      obtain ⟨result, computed, wholeNext⟩ := Operator.apply_whole applied whole
        (isWhole_literal smallOperand) (natAbs_lt_of_wholeTotal? exact)
        (natAbs_lt_of_wholeTotal? later)
      rw [← evaluate_appendStep evaluated] at computed
      exact ih computed wholeNext later

/-- **The value of the expression of a whole calculation is its total.** -/
theorem evaluate_wholeExpression {first : Nat} {steps : List (Operator × Nat)} {final : Int}
    (exact : wholeTotal? first steps = some final) :
    ∃ value, Evaluation.evaluate (wholeExpression first steps) = .ok value ∧
      value.IsWhole final := by
  obtain ⟨value, evaluated, whole⟩ := evaluate_toString (natAbs_lt_of_wholeTotal? exact)
  exact evaluate_steps evaluated whole exact

end PocketCalculator
