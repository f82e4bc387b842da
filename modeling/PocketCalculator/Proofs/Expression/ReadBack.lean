import PocketCalculator.Proofs.Expression.LeftToRight
import PocketCalculator.Proofs.Expression.ZeroSign
import PocketCalculator.Proofs.Number.PlainLayout

/-!
# Reading results back

The text of a result is an expression.  A negative result is read as zero minus a
literal, and negative zero is shown as zero; neither changes more than the sign of a
zero.

**A result that is written out reads back as itself** (`evaluate_resultText`), and
with a percent sign after it as one hundredth of itself
(`evaluate_resultText_percent`).
-/

set_option autoImplicit false

namespace PocketCalculator

namespace Binary64

/-! ## Signs -/

/-- The sign of a quotient is that of the dividend. -/
theorem neg_div (x y : Binary64) : (neg x).div y = neg (x.div y) := by
  cases x with
  | nan => rw [neg, nan_div, neg]
  | infinite left =>
      cases y with
      | nan => rfl
      | infinite right => rfl
      | finite right code => cases left <;> cases right <;> rfl
  | finite left code =>
      cases y with
      | nan => rfl
      | infinite right => cases left <;> cases right <;> rfl
      | finite right divisor =>
          have sign : ((!left) != right) = !(left != right) := by
            cases left <;> cases right <;> rfl
          have opposite : neg (finite left code) = finite (!left) code := rfl
          rw [opposite, div, div, sign]
          by_cases zero : divisor.val = 0
          · rw [if_pos zero, if_pos zero]
            split <;> rfl
          · rw [if_neg zero, if_neg zero, neg_nearest]

/-- Zero minus a number is the number with the opposite sign. -/
theorem zero_sub_same (negative : Bool) (x : Binary64) :
    SameNumber (sub (zero negative) x) (neg x) := by
  cases x with
  | nan => exact .refl _
  | infinite sign => exact .refl _
  | finite sign code =>
      simp only [zero, sub, neg, add, signedUnits_zero, zero_add]
      by_cases none : code.val = 0
      · rw [if_pos (signedUnits_eq_zero.mpr none)]
        refine .inr ⟨rfl, ?_⟩
        rw [isZero, none]
        rfl
      · rw [if_neg fun zero => none (signedUnits_eq_zero.mp zero), nearest_signedUnits _ none]
        exact .refl _

end Binary64

open Binary64 (SameNumber)

/-! ## Literals with a sign -/

theorem toBinary64_zero : Numeral.toBinary64 { whole := [0] } = .zero false := by
  have ratio : Numeral.ratio { whole := [0] } = (0, 1) := rfl
  unfold Numeral.toBinary64
  rw [ratio]
  dsimp only
  rw [Nat.zero_mul]
  exact Binary64.nearest_zero false Nat.one_pos

namespace Evaluation

/-- The characters of a sign. -/
def signChars (negative : Bool) : List Char := if negative then ['-'] else []

/-- The tokens that are read for a sign: a minus sign subtracts from zero. -/
def signTokens (negative : Bool) : List Token :=
  if negative then [.number (.zero false) false, .operator .subtract] else []

/-- A sign before a text is read as its tokens. -/
theorem evaluate_signed (negative : Bool) {chars : List Char}
    (noMinus : ∀ rest, chars ≠ '-' :: rest) :
    evaluate (String.ofList (signChars negative ++ chars)) =
      evaluateTokens (signTokens negative ++ Token.ofChars chars) := by
  rw [evaluate, String.toList_ofList]
  cases negative with
  | false =>
      have unsigned : signChars false ++ chars = chars := rfl
      rw [unsigned, readable_of_ne_minus noMinus]
      rfl
  | true =>
      have minus : '-' :: chars = Operator.subtract.symbolChars ++ chars := rfl
      have signed : signChars true ++ chars = '-' :: chars := rfl
      rw [signed, ofChars_readable_minus, minus, Token.ofChars_symbolChars_append,
        toBinary64_zero]
      rfl

/-- Digits do not begin with a minus sign. -/
theorem toChars_append_ne_minus {whole : Digits} (nonempty : whole ≠ []) (more : List Char) :
    ∀ rest, whole.toChars ++ more ≠ '-' :: rest := by
  intro rest same
  have digit := Token.run_toChars_ne_nil nonempty more
  rw [same] at digit
  exact digit rfl

theorem evaluateTokens_singleton (token : Token) : evaluateTokens [token] = .ok token.value := rfl

theorem evaluateTokens_operation (operator : Operator) (left literal : Binary64) (percent : Bool) :
    evaluateTokens [.number left false, .operator operator, .number literal percent]
      = operator.apply left (Token.value (.number literal percent)) := by
  have first : Token.value (.number left false) = left := rfl
  rw [evaluateTokens_cons, first, Progress.run, Progress.step]
  dsimp only
  rw [Progress.run, Progress.step]
  dsimp only
  cases operator.apply left (Token.value (.number literal percent)) with
  | ok total => rfl
  | error error => rfl

section Literal

variable {whole fraction : Digits} {fractionChars percentChars : List Char} {percent : Bool}
  (nonempty : whole ≠ []) (fractional : Token.Fraction fractionChars fraction)
  (marked : Token.PercentMark percentChars percent)
include nonempty fractional marked

/-- A literal is one token. -/
theorem ofChars_literal :
    Token.ofChars (whole.toChars ++ fractionChars ++ percentChars) =
      [.number (Numeral.toBinary64 { whole, fraction }) percent] := by
  have ends : Token.endsNumber [] = true := rfl
  have tokens := Token.ofChars_written nonempty fractional marked fun _ => ends
  rw [List.append_nil, Token.ofChars_nil] at tokens
  exact tokens

/-- A literal with a sign before it is its value, or zero minus its value. -/
theorem evaluate_signed_literal (negative : Bool) :
    evaluate (String.ofList
        (signChars negative ++ (whole.toChars ++ fractionChars ++ percentChars))) =
      .ok (if negative then
        Binary64.sub (.zero false)
          (Token.value (.number (Numeral.toBinary64 { whole, fraction }) percent))
      else Token.value (.number (Numeral.toBinary64 { whole, fraction }) percent)) := by
  have tokens := ofChars_literal nonempty fractional marked
  have noMinus := toChars_append_ne_minus nonempty (fractionChars ++ percentChars)
  rw [← List.append_assoc] at noMinus
  rw [evaluate_signed negative noMinus, tokens]
  cases negative with
  | false =>
      rw [signTokens, if_neg Bool.false_ne_true, if_neg Bool.false_ne_true, List.nil_append,
        evaluateTokens_singleton]
  | true =>
      rw [signTokens, if_pos rfl, if_pos rfl, List.cons_append, List.cons_append, List.nil_append,
        evaluateTokens_operation, Operator.apply]

end Literal

end Evaluation

/-! ## Results -/

/-- The fraction of a numeral is written with its point. -/
theorem Token.fraction_written (fraction : Digits) :
    Token.Fraction (if fraction.isEmpty then [] else '.' :: fraction.toChars) fraction := by
  cases fraction with
  | nil => exact .absent
  | cons digit rest => exact .digits _ (List.cons_ne_nil _ _)

/-- The text of a result that is written out. -/
theorem resultText_of_range {code : Fin finiteCodes} (negative : Bool)
    (low : plainFloor ≤ code.val) (high : code.val < plainCeiling) :
    ∃ (whole fraction : Digits) (fractionChars : List Char), whole ≠ [] ∧
      Token.Fraction fractionChars fraction ∧
      resultText (.finite negative code)
        = String.ofList (Evaluation.signChars negative ++ (whole.toChars ++ fractionChars)) ∧
      Numeral.toBinary64 { whole, fraction } = .finite false code := by
  obtain ⟨whole, fraction, nonempty, numeral, reads⟩ := numeral_of_range negative low high
  refine ⟨whole, fraction, _, nonempty, Token.fraction_written fraction, ?_, reads⟩
  rw [resultText, numeral, Numeral.text, Numeral.toChars]
  dsimp only [Option.map_none, Option.getD_none]
  rw [List.append_nil, List.append_assoc]
  rfl

theorem value_literal (x : Binary64) : Token.value (.number x false) = x := rfl

theorem value_percent (x : Binary64) : Token.value (.number x true) = x.div Token.hundred := rfl

/-- The opposite number has the opposite value, also with a percent sign. -/
theorem value_neg (x : Binary64) (percent : Bool) :
    Token.value (.number x.neg percent) = (Token.value (.number x percent)).neg := by
  cases percent with
  | false => rfl
  | true => rw [value_percent, value_percent, Binary64.neg_div]

theorem value_zero_congr (left right percent : Bool) :
    SameNumber (Token.value (.number (.zero left) percent))
      (Token.value (.number (.zero right) percent)) := by
  cases percent with
  | false => exact Binary64.sameNumber_zero left right
  | true =>
      rw [value_percent, value_percent]
      exact Binary64.div_zero_congr left right Token.hundred

/-- A result that is written out is read, with or without a percent sign after it,
as the literal of the same number. -/
theorem evaluate_resultText_mark {value : Binary64} (plain : ShownPlain value)
    {percentChars : List Char} {percent : Bool} (marked : Token.PercentMark percentChars percent) :
    ∃ read, Evaluation.evaluate (resultText value ++ String.ofList percentChars) = .ok read ∧
      SameNumber read (Token.value (.number value percent)) := by
  cases plain with
  | zero negative =>
      have shown : resultText (.zero negative) = String.ofList (Digits.toChars [0]) := rfl
      have read := Evaluation.evaluate_signed_literal (List.cons_ne_nil 0 []) .absent marked false
      rw [toBinary64_zero, if_neg Bool.false_ne_true, List.append_nil] at read
      rw [shown, ← String.ofList_append]
      exact ⟨_, read, value_zero_congr _ _ _⟩
  | @range negative code low high =>
      obtain ⟨whole, fraction, fractionChars, nonempty, fractional, shown, reads⟩ :=
        resultText_of_range negative low high
      have read := Evaluation.evaluate_signed_literal nonempty fractional marked negative
      rw [reads] at read
      rw [shown, ← String.ofList_append, List.append_assoc]
      refine ⟨_, read, ?_⟩
      cases negative with
      | false => exact .refl _
      | true =>
          have opposite : Binary64.finite true code = (Binary64.finite false code).neg := rfl
          rw [if_pos rfl, opposite, value_neg]
          exact Binary64.zero_sub_same false _

/-- **A result that is written out reads back as itself.** -/
theorem evaluate_resultText {value : Binary64} (plain : ShownPlain value) :
    ∃ read, Evaluation.evaluate (resultText value) = .ok read ∧ SameNumber read value := by
  have read := evaluate_resultText_mark plain .absent
  rw [String.ofList_nil, String.append_empty] at read
  exact read

/-- **With a percent sign it reads back as one hundredth of itself.** -/
theorem evaluate_resultText_percent {value : Binary64} (plain : ShownPlain value) :
    ∃ read, Evaluation.evaluate (resultText value ++ "%") = .ok read ∧
      SameNumber read (value.div Token.hundred) :=
  evaluate_resultText_mark plain .sign

end PocketCalculator
