import Mathlib.Data.List.DropRight
import PocketCalculator.Proofs.Number.ExponentLayout

/-!
# Significant digits

The significant digits of a numeral reach from its first digit that is not zero to its
last (`Numeral.significantDigits`); where the point stands and what power of ten is
written does not matter.  A numeral denotes a decimal whose significand has just these
digits (`Numeral.exists_significantDecimal`).

A layout adds only zeros to the digits of a decimal, before them or after them.  **The
numeral of a decimal denotes the decimal** (`Layout.magnitude_arrange`) **and has no more
significant digits** (`Layout.significantDigits_arrange_le`), whether it is written out
or with a power of ten.
-/

set_option autoImplicit false

namespace PocketCalculator

/-! ## Rows of digits -/

/-- Whether a digit is zero. -/
def Digit.isZero (digit : Digit) : Bool := digit.val == 0

theorem Digit.isZero_iff {digit : Digit} : Digit.isZero digit = true ↔ digit = 0 := by
  rw [Digit.isZero, beq_iff_eq]
  exact ⟨fun zero => Fin.ext zero, fun zero => congrArg Fin.val zero⟩

namespace Digits

/-- The digits from the first to the last that is not zero. -/
def significant (digits : Digits) : Digits :=
  (digits.dropWhile Digit.isZero).rdropWhile Digit.isZero

variable (digits : Digits) (count : Nat)

theorem exists_replicate_dropWhile :
    ∃ zeros, digits = List.replicate zeros 0 ++ digits.dropWhile Digit.isZero := by
  refine ⟨(digits.takeWhile Digit.isZero).length, ?_⟩
  have zeros : digits.takeWhile Digit.isZero
      = List.replicate (digits.takeWhile Digit.isZero).length 0 := by
    apply List.eq_replicate_of_mem
    intro digit taken
    exact Digit.isZero_iff.mp (List.mem_takeWhile_imp taken)
  rw [← zeros, List.takeWhile_append_dropWhile]

theorem exists_replicate_rdropWhile :
    ∃ zeros, digits = digits.rdropWhile Digit.isZero ++ List.replicate zeros 0 := by
  obtain ⟨zeros, parts⟩ := exists_replicate_dropWhile digits.reverse
  refine ⟨zeros, List.reverse_injective ?_⟩
  rw [List.reverse_append, List.reverse_replicate, List.rdropWhile, List.reverse_reverse]
  exact parts

/-- All other digits are zeros. -/
theorem exists_zeros_significant :
    ∃ leading trailing, digits
      = List.replicate leading 0 ++ (digits.significant ++ List.replicate trailing 0) := by
  obtain ⟨leading, front⟩ := exists_replicate_dropWhile digits
  obtain ⟨trailing, back⟩ := exists_replicate_rdropWhile (digits.dropWhile Digit.isZero)
  refine ⟨leading, trailing, ?_⟩
  rw [significant, ← back]
  exact front

theorem dropWhile_replicate_append :
    (List.replicate count 0 ++ digits).dropWhile Digit.isZero = digits.dropWhile Digit.isZero := by
  apply List.dropWhile_append_of_pos
  intro digit zero
  exact Digit.isZero_iff.mpr (List.eq_of_mem_replicate zero)

theorem rdropWhile_append_replicate :
    (digits ++ List.replicate count 0).rdropWhile Digit.isZero
      = digits.rdropWhile Digit.isZero := by
  rw [List.rdropWhile, List.rdropWhile, List.reverse_append, List.reverse_replicate,
    dropWhile_replicate_append]

/-- Zeros around digits are not significant. -/
theorem length_significant_le (leading trailing : Nat) :
    (significant (List.replicate leading 0 ++ (digits ++ List.replicate trailing 0))).length
      ≤ digits.length := by
  rw [significant, dropWhile_replicate_append, List.dropWhile_append]
  split
  · have none := dropWhile_replicate_append [] trailing
    rw [List.append_nil] at none
    rw [none, List.dropWhile_nil, List.rdropWhile_nil]
    exact Nat.zero_le _
  · rw [rdropWhile_append_replicate]
    exact (List.rdropWhile_prefix _ _).length_le.trans (List.dropWhile_suffix _).length_le

/-- The significant digits of a row denote its number up to a power of ten. -/
theorem exists_value_significant :
    ∃ trailing, digits.value = digits.significant.value * 10 ^ trailing := by
  obtain ⟨leading, trailing, parts⟩ := exists_zeros_significant digits
  refine ⟨trailing, ?_⟩
  conv_lhs => rw [parts]
  rw [value_append, value_append, value_replicate_zero, value_replicate_zero,
    List.length_replicate, Nat.zero_mul, Nat.zero_add, Nat.add_zero]

end Digits

/-! ## Powers of ten -/

namespace Exponent

/-- The power of ten that an exponent denotes. -/
def toInt (exponent : Exponent) : ℤ :=
  if exponent.negative then -(Digits.value exponent.digits : ℤ) else Digits.value exponent.digits

theorem toInt_ofInt (value : ℤ) : (ofInt value).toInt = value := by
  unfold toInt ofInt
  dsimp only
  rw [Digits.value_ofNat]
  split
  · rename_i negative
    have := of_decide_eq_true negative
    omega
  · rename_i nonneg
    have : ¬ value < 0 := fun negative => nonneg (decide_eq_true negative)
    omega

end Exponent

namespace Numeral

/-- The power of ten that is written. -/
def power (numeral : Numeral) : ℤ := (numeral.exponent.map Exponent.toInt).getD 0

/-- The power of ten that is written is a factor. -/
theorem magnitude_eq_mul_power (numeral : Numeral) :
    numeral.magnitude = magnitude { whole := numeral.whole, fraction := numeral.fraction }
      * (10 : ℚ) ^ numeral.power := by
  rw [Layout.magnitude_plainDigits]
  unfold magnitude ratio power
  dsimp only
  generalize Digits.value (numeral.whole ++ numeral.fraction) = significand
  cases numeral.exponent with
  | none => simp
  | some exponent =>
      unfold Exponent.toInt
      simp only [Option.map_some, Option.getD_some, Nat.pow_eq]
      cases exponent.negative with
      | false =>
          simp only [Bool.false_eq_true, if_false, zpow_natCast]
          push_cast
          ring
      | true =>
          simp only [if_true, zpow_neg, zpow_natCast]
          push_cast
          field_simp

/-! ## Significant digits of numerals -/

/-- The number of significant digits of a numeral. -/
def significantDigits (numeral : Numeral) : Nat :=
  (Digits.significant (numeral.whole ++ numeral.fraction)).length

/-- **A numeral denotes a decimal with no more digits than its significant ones.** -/
theorem exists_significantDecimal (numeral : Numeral) :
    ∃ decimal : Decimal, decimal.value = numeral.magnitude ∧
      decimal.significand < 10 ^ numeral.significantDigits := by
  have tens : (10 : ℚ) ≠ 0 := by norm_num
  obtain ⟨trailing, digits⟩ :=
    Digits.exists_value_significant (numeral.whole ++ numeral.fraction)
  refine ⟨{
      significand := Digits.value (Digits.significant (numeral.whole ++ numeral.fraction))
      exponent := trailing + (numeral.power - numeral.fraction.length) }, ?_, Digits.value_lt _⟩
  rw [magnitude_eq_mul_power, Layout.magnitude_plainDigits, digits, Decimal.value, zpow_add₀ tens,
    zpow_sub₀ tens, zpow_natCast, zpow_natCast]
  push_cast
  ring

/-- Zeros around the digits of a decimal are not significant in a numeral. -/
theorem significantDigits_le_of_zeros {numeral : Numeral} {digits : Digits} {leading trailing : Nat}
    (parts : numeral.whole ++ numeral.fraction
      = List.replicate leading 0 ++ (digits ++ List.replicate trailing 0)) :
    numeral.significantDigits ≤ digits.length := by
  rw [significantDigits, parts]
  exact Digits.length_significant_le digits leading trailing

end Numeral

/-! ## Layouts -/

namespace Layout

variable (layout : Layout) (negative : Bool) (decimal : Decimal)

/-- A decimal that is written out has zeros around its digits. -/
theorem exists_zeros_plain :
    ∃ leading trailing, (layout.plain negative decimal).whole
        ++ (layout.plain negative decimal).fraction
      = List.replicate leading 0 ++ (decimal.digits ++ List.replicate trailing 0) := by
  unfold plain
  dsimp only
  split
  · obtain ⟨zeros, point⟩ : ∃ zeros, layout.wholeFraction = List.replicate zeros 0 := by
      unfold wholeFraction
      split
      · exact ⟨1, rfl⟩
      · exact ⟨0, rfl⟩
    refine ⟨0, decimal.exponent.toNat + zeros, ?_⟩
    rw [point, List.append_assoc, List.replicate_append_replicate]
    rfl
  · split
    · refine ⟨0, 0, ?_⟩
      rw [List.take_append_drop]
      exact (List.append_nil _).symm
    · refine ⟨(-decimal.leadingExponent - 1).toNat + 1, 0, ?_⟩
      rw [List.replicate_succ, List.replicate_zero, List.append_nil]
      rfl

theorem significantDigits_plain_le :
    (layout.plain negative decimal).significantDigits ≤ decimal.digits.length := by
  obtain ⟨leading, trailing, parts⟩ := layout.exists_zeros_plain negative decimal
  exact Numeral.significantDigits_le_of_zeros parts

theorem significantDigits_scientific_le :
    (scientific negative decimal).significantDigits ≤ decimal.digits.length := by
  have parts : (scientific negative decimal).whole ++ (scientific negative decimal).fraction
      = List.replicate 0 0 ++ (decimal.digits ++ List.replicate 0 0) := by
    rw [scientific, List.take_append_drop]
    exact (List.append_nil _).symm
  exact Numeral.significantDigits_le_of_zeros parts

/-- **A decimal that is written with a power of ten keeps its value.** -/
theorem magnitude_scientific : (scientific negative decimal).magnitude = decimal.value := by
  have power : (scientific negative decimal).power = decimal.leadingExponent :=
    Exponent.toInt_ofInt _
  have mantissa : Numeral.magnitude
      { whole := (scientific negative decimal).whole,
        fraction := (scientific negative decimal).fraction } = decimal.mantissa.value :=
    decimal.magnitude_mantissa
  rw [Numeral.magnitude_eq_mul_power, power, mantissa, ← Decimal.value_eq_mantissa]

theorem arrange_cases :
    layout.arrange negative decimal = layout.plain negative decimal ∨
      layout.arrange negative decimal = scientific negative decimal := by
  unfold arrange
  dsimp only
  split
  · exact .inl rfl
  · exact .inr rfl

/-- **The numeral of a decimal denotes the decimal.** -/
theorem magnitude_arrange : (layout.arrange negative decimal).magnitude = decimal.value := by
  rcases layout.arrange_cases negative decimal with plain | scientific
  · rw [plain, magnitude_plain]
  · rw [scientific, magnitude_scientific]

/-- **The numeral of a decimal has no more significant digits than the decimal.** -/
theorem significantDigits_arrange_le :
    (layout.arrange negative decimal).significantDigits ≤ decimal.digits.length := by
  rcases layout.arrange_cases negative decimal with plain | scientific
  · rw [plain]
    exact layout.significantDigits_plain_le negative decimal
  · rw [scientific]
    exact significantDigits_scientific_le negative decimal

end Layout

end PocketCalculator
