import PocketCalculator.Proofs.Display.WholeNumbers
import PocketCalculator.Proofs.Expression.ReadBack
import PocketCalculator.Proofs.Number.FifteenDigits

/-!
# Typed numerals

A numeral without a sign and a power of ten is typed with one key for each digit and one
for the point (`Key.ofNumeral`), and the keys type its text (`Key.typedText_ofNumeral`).

**A typed numeral with fifteen significant digits or fewer is shown back unchanged**
(`DisplayState.run_numeralKeys`), if it is written as the display writes numbers out: it is
the text of a result, and the text of a result reads back.
-/

set_option autoImplicit false

namespace PocketCalculator

namespace Key

/-- The keys of the digits of a numeral and of its point. -/
def ofNumeral (numeral : Numeral) : List Key :=
  numeral.whole.map ofDigit
    ++ if numeral.fraction.isEmpty then [] else .decimal :: numeral.fraction.map ofDigit

/-- The keys of a numeral type it. -/
theorem typedText_ofNumeral {numeral : Numeral} (plain : numeral.IsPlain)
    (unsigned : numeral.negative = false) : typedText (ofNumeral numeral) = numeral.text := by
  have fraction : typedText
      (if numeral.fraction.isEmpty then [] else .decimal :: numeral.fraction.map ofDigit)
        = String.ofList
          (if numeral.fraction.isEmpty then [] else '.' :: numeral.fraction.toChars) := by
    split
    · rfl
    · rw [typedText, typedText_digits]
      exact String.ofList_append.symm
  rw [ofNumeral, typedText_append, typedText_digits, fraction, ← String.ofList_append,
    Numeral.text, Numeral.toChars, unsigned, plain.noExponent]
  simp

end Key

namespace DisplayState

/-- **A typed numeral with fifteen significant digits or fewer is shown back unchanged.** A
plain numeral in the range that is written out is evaluated to a number that is shown as
this numeral; and on a new display its keys and Equals leave its text. -/
theorem run_numeralKeys {numeral : Numeral} (plain : numeral.IsPlain)
    (unsigned : numeral.negative = false) (few : numeral.significantDigits ≤ 15)
    (low : (10 : ℚ) ^ (-6 : ℤ) ≤ numeral.magnitude) (high : numeral.magnitude < 10 ^ 21) :
    (∃ value, Evaluation.evaluate numeral.text = .ok value ∧ resultText value = numeral.text) ∧
      empty.run ((Key.ofNumeral numeral).map Message.press ++ [.equals]) =
        { text := numeral.text, isResult := true } := by
  obtain ⟨code, shown, same⟩ := exists_numeral_of_fifteenDigits plain unsigned few low high
  have result : resultText (.finite false code) = numeral.text := by
    rw [resultText_finite, same]
  obtain ⟨value, evaluated, read⟩ := evaluate_resultText shown
  have back : resultText value = numeral.text := (resultText_congr read).trans result
  rw [result] at evaluated
  refine ⟨⟨value, evaluated, back⟩, ?_⟩
  rw [← Key.typedText_ofNumeral plain unsigned] at evaluated
  rw [DisplayState.run_typed evaluated, back]

/-- Fifteen nines after five zeros. -/
def fifteenNines : Numeral :=
  displayLayout.plain false { significand := 999999999999999, exponent := -20 }

/-- The last of fifteen nines is still there. -/
theorem run_fifteenNines :
    (fifteenNines.IsPlain ∧ fifteenNines.negative = false ∧ fifteenNines.significantDigits ≤ 15 ∧
      (10 : ℚ) ^ (-6 : ℤ) ≤ fifteenNines.magnitude ∧ fifteenNines.magnitude < 10 ^ 21) ∧
      (∃ value, Evaluation.evaluate fifteenNines.text = .ok value ∧
        resultText value = fifteenNines.text) ∧
      empty.run ((Key.ofNumeral fifteenNines).map Message.press ++ [.equals]) =
        { text := "0.00000999999999999999", isResult := true } := by
  have plain : fifteenNines.IsPlain := Layout.isPlain_plain false (by decide)
  have unsigned : fifteenNines.negative = false := Layout.negative_plain false displayLayout _
  have few : fifteenNines.significantDigits ≤ 15 :=
    (displayLayout.significantDigits_plain_le false _).trans
      (Digits.length_ofNat_le (by decide) (by decide))
  have magnitude : fifteenNines.magnitude = 999999999999999 * (10 : ℚ) ^ (-20 : ℤ) := by
    rw [fifteenNines, Layout.magnitude_plain, Decimal.value]
    norm_num
  have low : (10 : ℚ) ^ (-6 : ℤ) ≤ fifteenNines.magnitude := by
    rw [magnitude]
    norm_num
  have high : fifteenNines.magnitude < 10 ^ 21 := by
    rw [magnitude]
    norm_num
  have text : fifteenNines.text = "0.00000999999999999999" := by decide +kernel
  have shown := run_numeralKeys plain unsigned few low high
  refine ⟨⟨plain, unsigned, few, low, high⟩, shown.1, ?_⟩
  rw [← text]
  exact shown.2

end DisplayState

end PocketCalculator
