import PocketCalculator.Proofs.Expression.ReadBack
import PocketCalculator.Proofs.Number.ExponentLayout

/-!
# Results with a power of ten as expressions

Expressions have no powers of ten.  In the text of a result that is written with
one, the letter before the power is passed over, the sign of the power is an
operator, and its size is a number.  **Such a text is read as a calculation**: its
mantissa plus or minus the size of the power (`evaluate_exponentForm`).
-/

set_option autoImplicit false

namespace PocketCalculator

/-! ## Tokens -/

namespace Token

/-- The letter before a power of ten is passed over. -/
theorem ofChars_exponentLetter (rest : List Char) : ofChars ('e' :: rest) = ofChars rest := by
  have silent : lexemeAt? ('e' :: rest) = none := rfl
  have passed : next ('e' :: rest) = next rest := by rw [next, silent]
  rw [ofChars, ofChars, scan_congr passed]

theorem ofChars_exponentForm {whole fraction exponent : Digits} {fractionChars : List Char}
    (nonempty : whole ≠ []) (fractional : Fraction fractionChars fraction)
    (sized : exponent ≠ []) (operator : Operator) :
    ofChars (whole.toChars ++
        (fractionChars ++ 'e' :: (operator.symbolChars ++ exponent.toChars))) =
      [.number (Numeral.toBinary64 { whole, fraction }) false, .operator operator,
        .number (Numeral.toBinary64 { whole := exponent }) false] := by
  have apart : endsNumber ('e' :: (operator.symbolChars ++ exponent.toChars)) = true := rfl
  have mantissa := ofChars_written nonempty fractional .absent fun _ => apart
  have size := Evaluation.ofChars_literal sized .absent .absent
  rw [List.append_nil, List.append_assoc] at mantissa
  rw [List.append_nil, List.append_nil] at size
  rw [mantissa, ofChars_exponentLetter, ofChars_symbolChars_append, size]

end Token

namespace Evaluation

/-- **A text with a power of ten is read as a calculation** of its mantissa and the
size of the power. -/
theorem evaluate_exponentForm {whole fraction exponent : Digits} {fractionChars : List Char}
    (nonempty : whole ≠ []) (fractional : Token.Fraction fractionChars fraction)
    (sized : exponent ≠ []) (negative : Bool) (operator : Operator) :
    evaluate (String.ofList (signChars negative ++ (whole.toChars ++
        (fractionChars ++ 'e' :: (operator.symbolChars ++ exponent.toChars))))) =
      operator.apply
        (if negative then Binary64.sub (.zero false) (Numeral.toBinary64 { whole, fraction })
        else Numeral.toBinary64 { whole, fraction })
        (Numeral.toBinary64 { whole := exponent }) := by
  have tokens := Token.ofChars_exponentForm nonempty fractional sized operator
  rw [evaluate_signed negative (toChars_append_ne_minus nonempty _), tokens]
  generalize Numeral.toBinary64 { whole, fraction } = mantissa
  generalize Numeral.toBinary64 { whole := exponent } = size
  cases negative with
  | false =>
      rw [signTokens, if_neg Bool.false_ne_true, if_neg Bool.false_ne_true, List.nil_append,
        evaluateTokens_operation, value_literal]
  | true =>
      have divided : signTokens true ++ [.number mantissa false, .operator operator,
            .number size false]
          = [.number (.zero false) false, .operator .subtract, .number mantissa false]
            ++ .operator operator :: [.number size false] := rfl
      have difference : evaluateTokens
            [.number (.zero false) false, .operator .subtract, .number mantissa false]
          = .ok (Binary64.sub (.zero false) mantissa) := by
        rw [evaluateTokens_operation, Operator.apply, value_literal]
      rw [divided, evaluateTokens_append_operator (List.cons_ne_nil _ _), difference, if_pos rfl,
        Except.bind, evaluateTokens_operation, value_literal]

end Evaluation

/-! ## Results -/

/-- The operator that the sign of a power of ten is read as. -/
def exponentOperator (leading : Int) : Operator := if leading < 0 then .subtract else .add

theorem exponent_toChars (leading : Int) :
    (Exponent.ofInt leading).toChars =
      'e' :: ((exponentOperator leading).symbolChars ++
        (Digits.ofNat leading.natAbs).toChars) := by
  rw [Exponent.ofInt, Exponent.toChars, exponentOperator]
  by_cases below : leading < 0
  · rw [if_pos below, decide_eq_true below]
    rfl
  · rw [if_neg below, decide_eq_false below]
    rfl

theorem take_one_digits_ne_nil (decimal : Decimal) : decimal.digits.take 1 ≠ [] := by
  intro empty
  rcases List.take_eq_nil_iff.mp empty with zero | noDigits
  · exact absurd zero Nat.one_ne_zero
  · exact Digits.ofNat_ne_nil _ noDigits

/-- **A decimal with a power of ten is read as its mantissa and the size of the
power**, with the operator that the sign of the power is. -/
theorem evaluate_scientific (negative : Bool) {decimal : Decimal} {mantissa : Fin finiteCodes}
    (same : decimal.mantissa.code = mantissa) :
    Evaluation.evaluate (Layout.scientific negative decimal).text =
      (exponentOperator decimal.leadingExponent).apply
        (if negative then Binary64.sub (.zero false) (.finite false mantissa)
        else .finite false mantissa)
        (Numeral.toBinary64 { whole := Digits.ofNat decimal.leadingExponent.natAbs }) := by
  have form := Evaluation.evaluate_exponentForm (take_one_digits_ne_nil decimal)
    (Token.fraction_written (decimal.digits.drop 1))
    (Digits.ofNat_ne_nil decimal.leadingExponent.natAbs) negative
    (exponentOperator decimal.leadingExponent)
  rw [Numeral.toBinary64_of_magnitude decimal.magnitude_mantissa same, ← exponent_toChars] at form
  rw [Layout.scientific, Numeral.text, Numeral.toChars]
  dsimp only [Option.map_some, Option.getD_some]
  rw [List.append_assoc, List.append_assoc]
  exact form

end PocketCalculator
