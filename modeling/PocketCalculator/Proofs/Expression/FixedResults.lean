import PocketCalculator.Proofs.Expression.ExponentForm
import PocketCalculator.Proofs.Expression.WholeNumbers
import PocketCalculator.Proofs.Number.ExponentSums
import PocketCalculator.Proofs.Number.ResultLetters

/-!
# Results that are read back as they are shown

A result with a power of ten is read as the sum of its mantissa and the exponent of
the power (`evaluate_scientific_sum`).  Such a sum is never the result again, and the
words for the numbers that are not finite are not read as these numbers, so a result
that is read back as the same number is written out
(`shownPlain_of_evaluate_resultText`).

**A result reads back as it is shown exactly if it is written out**
(`outcomeText_evaluate_resultText_iff`).
-/

set_option autoImplicit false

namespace PocketCalculator

/-! ## The sum that is read -/

namespace Binary64

/-- Zero minus a number that is not zero is the opposite number. -/
theorem zero_sub_finite {code : Fin finiteCodes} (nonzero : code.val ≠ 0) :
    sub (zero false) (finite false code) = finite true code := by
  rcases zero_sub_same false (finite false code) with same | ⟨_, isZero⟩
  · exact same
  · exact absurd (beq_iff_eq.mp isZero) nonzero

end Binary64

open Binary64 (signedUnits)

/-- The operator and the size of a power of ten add its exponent. -/
theorem exponentOperator_apply {leading : Int} (small : leading.natAbs < wholeBound)
    (mantissa : Binary64) :
    ∃ (negative : Bool) (code : Fin finiteCodes),
      (exponentOperator leading).apply mantissa
          (Numeral.toBinary64 { whole := Digits.ofNat leading.natAbs })
        = .ok (mantissa.add (.finite negative code)) ∧
      signedUnits negative code = leading * unitsPerOne := by
  have size := isWhole_literal small
  by_cases below : leading < 0
  · obtain ⟨negative, code, same, exact⟩ := size.neg.exists_signedUnits
    refine ⟨negative, code, ?_, ?_⟩
    · rw [exponentOperator, if_pos below, Operator.apply, Binary64.sub, same]
    · rw [exact]
      congr 1
      omega
  · obtain ⟨negative, code, same, exact⟩ := size.exists_signedUnits
    refine ⟨negative, code, ?_, ?_⟩
    · rw [exponentOperator, if_neg below, Operator.apply, same]
    · rw [exact]
      congr 1
      omega

/-- **A number with a power of ten is read as the sum of its mantissa and the
exponent.**  If it is read as a finite number, then that number is the rounded sum. -/
theorem evaluate_scientific_sum {negative sign : Bool} {decimal : Decimal}
    {mantissa code : Fin finiteCodes} (same : decimal.mantissa.code = mantissa)
    (positive : mantissa.val ≠ 0) (small : decimal.leadingExponent.natAbs < wholeBound)
    (nonzero : code.val ≠ 0)
    (evaluated : Evaluation.evaluate (Layout.scientific negative decimal).text
      = .ok (.finite sign code)) :
    sign = decide (readSum negative mantissa decimal.leadingExponent < 0) ∧
      nearestCode (readSum negative mantissa decimal.leadingExponent).natAbs 1 = code := by
  obtain ⟨right, rightCode, applied, exact⟩ := exponentOperator_apply small
    (if negative then Binary64.sub (.zero false) (.finite false mantissa)
      else .finite false mantissa)
  have left : (if negative then Binary64.sub (.zero false) (.finite false mantissa)
      else .finite false mantissa) = Binary64.finite negative mantissa := by
    cases negative with
    | false => rw [if_neg Bool.false_ne_true]
    | true => rw [if_pos rfl, Binary64.zero_sub_finite positive]
  rw [evaluate_scientific negative same, applied, left] at evaluated
  have sum := Binary64.of_add_eq_finite (Except.ok.inj evaluated) nonzero
  rw [exact] at sum
  exact sum

/-! ## Results -/

/-- A finite number that is written with a power of ten is not read back. -/
theorem evaluate_resultText_ne_of_not_range {negative : Bool} {code : Fin finiteCodes}
    (nonzero : code.val ≠ 0) (outside : code.val < plainFloor ∨ plainCeiling ≤ code.val) :
    Evaluation.evaluate (resultText (.finite negative code)) ≠ .ok (.finite negative code) := by
  intro fixed
  have reads := code_shortestDecimal displayLayout.tie code
  have bounds := leadingExponent_bounds displayLayout.tie code nonzero
  obtain ⟨mantissa, same, floor, ceiling⟩ := Decimal.exists_code_mantissa
    (@significand_shortestDecimal_ne_zero displayLayout.tie code nonzero)
  have positive : mantissa.val ≠ 0 := by
    intro zero
    rw [zero, units_zero] at floor
    exact absurd floor (Nat.not_le.mpr unitsPerOne_pos)
  have few : (shortestDecimal displayLayout.tie code).leadingExponent.natAbs < wholeBound := by
    have : 324 < wholeBound := by decide
    omega
  rw [resultText, numeral_of_not_range nonzero negative outside] at fixed
  obtain ⟨sign, rounded⟩ := evaluate_scientific_sum same positive few nonzero fixed
  rcases outside with small | large
  · have low := leadingExponent_lt_of_lt_plainFloor nonzero small
    have plainFrom : displayLayout.plainFrom = -6 := rfl
    exact not_small_of_sum same reads floor ceiling sign rounded (by omega) small
  · have high := le_leadingExponent_of_plainCeiling_le large
    have plainBelow : displayLayout.plainBelow = 21 := rfl
    have inside := code_lt_plainCeiling_of_sum ceiling sign rounded (by omega) bounds.2
    omega

/-- **A result that is read back as the same number is written out.** -/
theorem shownPlain_of_evaluate_resultText {value : Binary64}
    (fixed : Evaluation.evaluate (resultText value) = .ok value) : ShownPlain value := by
  cases value with
  | nan =>
      have failed : Evaluation.evaluate (resultText .nan) = .error .invalidExpression := by
        decide +kernel
      rw [failed] at fixed
      contradiction
  | infinite negative =>
      cases negative with
      | false =>
          have failed : Evaluation.evaluate (resultText (.infinite false))
              = .error .invalidExpression := by decide +kernel
          rw [failed] at fixed
          contradiction
      | true =>
          have zero : Evaluation.evaluate (resultText (.infinite true)) = .ok (.zero false) := by
            decide +kernel
          rw [zero] at fixed
          exact absurd (Except.ok.inj fixed) nofun
  | finite negative code =>
      by_contra notPlain
      rw [shownPlain_finite, not_or, not_and_or, Nat.not_le, Nat.not_lt] at notPlain
      exact evaluate_resultText_ne_of_not_range notPlain.1 notPlain.2 fixed

/-- **A result reads back as it is shown exactly if it is written out.** -/
theorem outcomeText_evaluate_resultText_iff (value : Binary64) :
    DisplayState.outcomeText (Evaluation.evaluate (resultText value)) = resultText value ↔
      ShownPlain value := by
  constructor
  · intro same
    cases evaluated : Evaluation.evaluate (resultText value) with
    | error failure =>
        rw [evaluated, DisplayState.outcomeText] at same
        exact absurd same.symm (resultText_ne_errorText value)
    | ok read =>
        rw [evaluated, DisplayState.outcomeText] at same
        -- The same text has the same letters, and it is read as what it was read as before.
        have fixed : Evaluation.evaluate (resultText read) = .ok read := by rw [same, evaluated]
        have letters := exists_letter_iff value
        rw [← same, exists_letter_iff, not_iff_not] at letters
        exact letters.mp (shownPlain_of_evaluate_resultText fixed)
  · intro plain
    obtain ⟨read, evaluated, same⟩ := evaluate_resultText plain
    rw [evaluated, DisplayState.outcomeText]
    exact resultText_congr same

end PocketCalculator
