import PocketCalculator.Display.ResultText
import PocketCalculator.Expression.Evaluation
import PocketCalculator.Proofs.Number.Signs

/-!
# Numbers up to the sign of zero

The two zeros are different numbers that are shown as the same text
(`resultText_congr`).  No operator tells them apart as its left operand except in
the sign of a zero (`Operator.apply_congr`), so evaluations that start from the same
number end with the same number (`Evaluation.evaluateTokens_congr`).
-/

set_option autoImplicit false

namespace PocketCalculator

namespace Binary64

/-- Whether two numbers are the same up to the sign of zero. -/
def SameNumber (x y : Binary64) : Prop := x = y ∨ x.isZero = true ∧ y.isZero = true

theorem SameNumber.refl (x : Binary64) : SameNumber x x := .inl rfl

theorem sameNumber_zero (left right : Bool) : SameNumber (zero left) (zero right) := .inr ⟨rfl, rfl⟩

theorem eq_zero_of_isZero {x : Binary64} (isZero : x.isZero = true) :
    ∃ negative, x = zero negative := by
  cases x with
  | nan => contradiction
  | infinite negative => contradiction
  | finite negative code =>
      refine ⟨negative, ?_⟩
      rw [Binary64.isZero, beq_iff_eq] at isZero
      exact congrArg (finite negative) (Fin.ext isZero)

/-! ## Operations on a zero -/

section Zero

variable (left right : Bool) (x : Binary64)

theorem add_zero_congr : SameNumber (add (zero left) x) (add (zero right) x) := by
  cases x with
  | nan => exact .refl _
  | infinite negative => exact .refl _
  | finite negative code =>
      simp only [zero, add, signedUnits_zero, zero_add]
      split
      · exact sameNumber_zero _ _
      · exact .refl _

theorem mul_zero_congr : SameNumber (mul (zero left) x) (mul (zero right) x) := by
  cases x with
  | nan => exact .refl _
  | infinite negative => exact .refl _
  | finite negative code =>
      simp only [zero, mul, units_zero, Nat.zero_mul, nearest_zero _ unitsPerOne_pos]
      exact sameNumber_zero _ _

theorem div_zero_congr : SameNumber (div (zero left) x) (div (zero right) x) := by
  cases x with
  | nan => exact .refl _
  | infinite negative => exact sameNumber_zero _ _
  | finite negative code =>
      simp only [zero, div, units_zero, Nat.zero_mul]
      by_cases divisor : code.val = 0
      · rw [if_pos divisor, if_pos divisor]
        exact .refl _
      · have positive : 0 < units code :=
          Nat.pos_of_ne_zero fun none => divisor (units_eq_zero.mp none)
        rw [if_neg divisor, if_neg divisor, nearest_zero _ positive, nearest_zero _ positive]
        exact sameNumber_zero _ _

theorem remainder_zero_congr : SameNumber (remainder (zero left) x) (remainder (zero right) x) := by
  cases x with
  | nan => exact .refl _
  | infinite negative => exact sameNumber_zero _ _
  | finite negative code =>
      simp only [zero, remainder, units_zero, Nat.zero_mod, nearest_zero _ Nat.one_pos]
      split
      · exact .refl _
      · exact sameNumber_zero _ _

end Zero

end Binary64

open Binary64 (SameNumber)

/-! ## Results -/

/-- **The sign of zero is not shown.** -/
theorem resultText_congr {x y : Binary64} (same : SameNumber x y) :
    resultText x = resultText y := by
  rcases same with rfl | ⟨left, right⟩
  · rfl
  · obtain ⟨first, rfl⟩ := Binary64.eq_zero_of_isZero left
    obtain ⟨second, rfl⟩ := Binary64.eq_zero_of_isZero right
    rfl

/-- Whether two outcomes are the same number up to the sign of zero or the same
failure. -/
inductive SameOutcome : Outcome → Outcome → Prop where
  | ok {x y : Binary64} (same : SameNumber x y) : SameOutcome (.ok x) (.ok y)
  | error (failure : CalculationError) : SameOutcome (.error failure) (.error failure)

theorem SameOutcome.refl (outcome : Outcome) : SameOutcome outcome outcome := by
  cases outcome with
  | ok value => exact .ok (.refl value)
  | error failure => exact .error failure

/-- **No operator tells the zeros apart.** -/
theorem Operator.apply_congr (operator : Operator) {x y : Binary64} (same : SameNumber x y)
    (right : Binary64) : SameOutcome (operator.apply x right) (operator.apply y right) := by
  rcases same with rfl | ⟨left, left'⟩
  · exact .refl _
  · obtain ⟨first, rfl⟩ := Binary64.eq_zero_of_isZero left
    obtain ⟨second, rfl⟩ := Binary64.eq_zero_of_isZero left'
    cases operator with
    | add => exact .ok (Binary64.add_zero_congr first second right)
    | subtract => exact .ok (Binary64.add_zero_congr first second right.neg)
    | multiply => exact .ok (Binary64.mul_zero_congr first second right)
    | divide =>
        simp only [apply]
        split
        · exact .error _
        · exact .ok (Binary64.div_zero_congr first second right)
    | modulo => exact .ok (Binary64.remainder_zero_congr first second right)

/-! ## Evaluations -/

namespace Evaluation

/-- Whether two states of an evaluation differ in the sign of a zero at most. -/
structure SameProgress (first second : Progress) : Prop where
  total : SameNumber first.total second.total
  pending : first.pending = second.pending

/-- **A run keeps evaluations the same.** -/
theorem run_congr {first second : Progress} (same : SameProgress first second)
    (tokens : List Token) :
    SameOutcome ((first.run tokens).map Progress.total)
      ((second.run tokens).map Progress.total) := by
  induction tokens generalizing first second with
  | nil => exact .ok same.total
  | cons token rest ih =>
      cases token with
      | operator operator => exact ih ⟨same.total, rfl⟩
      | number literal percent =>
          unfold Progress.run Progress.step
          rw [same.pending]
          cases second.pending with
          | none => exact .error _
          | some operator =>
              have applied :=
                operator.apply_congr same.total (Token.value (.number literal percent))
              dsimp only
              generalize operator.apply first.total _ = left at applied ⊢
              generalize operator.apply second.total _ = right at applied ⊢
              cases applied with
              | ok same => exact ih ⟨same, rfl⟩
              | error failure => exact .error failure

theorem evaluateTokens_cons (first : Token) (rest : List Token) :
    evaluateTokens (first :: rest)
      = (Progress.run { total := first.value } rest).map Progress.total := by
  rw [evaluateTokens]
  cases Progress.run { total := first.value } rest with
  | ok progress => rfl
  | error error => rfl

/-- Evaluations that start from the same number end with the same number or the
same failure. -/
theorem evaluateTokens_congr {x y : Binary64} (same : SameNumber x y) (tokens : List Token) :
    SameOutcome (evaluateTokens (.number x false :: tokens))
      (evaluateTokens (.number y false :: tokens)) := by
  have related : SameProgress { total := x } { total := y } := ⟨same, rfl⟩
  rw [evaluateTokens_cons, evaluateTokens_cons]
  exact run_congr related tokens

end Evaluation

end PocketCalculator
