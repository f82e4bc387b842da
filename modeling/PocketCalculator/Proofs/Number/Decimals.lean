import Mathlib.Algebra.Order.Field.Power
import PocketCalculator.Number.Layout
import PocketCalculator.Proofs.Number.Digits
import PocketCalculator.Proofs.Number.Nearest
import PocketCalculator.Proofs.Search

/-!
# Decimals that read back

The value of a decimal as a rational number (`Decimal.value`), and what the code
nearest to it is: it grows with the value (`Decimal.code_le_code`), so decimals of
the same value have the same code.

**The shortest decimal of a number reads back as that number**
(`code_shortestDecimal`), whichever grid it was found on.  It is found no later than on a
grid on which a point is known to be found (`exists_gridPoint_of_search`).
-/

set_option autoImplicit false

namespace PocketCalculator

/-! ## Values of decimals -/

namespace Decimal

/-- The rational number that a decimal denotes. -/
def value (decimal : Decimal) : ℚ := decimal.significand * (10 : ℚ) ^ decimal.exponent

theorem ratio_pos (decimal : Decimal) : 0 < decimal.ratio.2 := by
  unfold ratio
  split
  · exact Nat.one_pos
  · exact Nat.pow_pos (by decide)

/-- The numerator and the denominator of a decimal are those of its value. -/
theorem ratio_value (decimal : Decimal) :
    (decimal.ratio.1 : ℚ) / decimal.ratio.2 = decimal.value := by
  unfold ratio value
  split
  · rename_i nonneg
    obtain ⟨places, same⟩ := Int.eq_ofNat_of_zero_le nonneg
    rw [same]
    simp
  · rename_i negative
    obtain ⟨places, same⟩ := Int.eq_ofNat_of_zero_le (by omega : 0 ≤ -decimal.exponent)
    have exponent : decimal.exponent = -(places : ℤ) := by omega
    rw [same, exponent]
    simp [div_eq_mul_inv]

theorem unitsPerOne_cast_pos : (0 : ℚ) < unitsPerOne := by
  exact_mod_cast unitsPerOne_pos

/-- The code of a decimal is nearest to its value. -/
theorem isNearest_code (decimal : Decimal) :
    IsNearest (decimal.value * unitsPerOne) decimal.code := by
  have nearest := isNearest_nearestCode (decimal.ratio.1 * unitsPerOne) decimal.ratio_pos
  rw [Nat.cast_mul, mul_div_right_comm, ratio_value] at nearest
  exact nearest

/-- The code of a decimal grows with its value. -/
theorem code_le_code {first second : Decimal} (ordered : first.value ≤ second.value) :
    first.code ≤ second.code :=
  first.isNearest_code.mono second.isNearest_code
    (mul_le_mul_of_nonneg_right ordered unitsPerOne_cast_pos.le)

theorem code_congr {first second : Decimal} (same : first.value = second.value) :
    first.code = second.code :=
  Nat.le_antisymm (code_le_code same.le) (code_le_code same.ge)

/-- A decimal without a digit other than zero is read as zero. -/
theorem code_eq_zero {decimal : Decimal} (zero : decimal.significand = 0) : decimal.code = 0 := by
  have nearest := decimal.isNearest_code
  rw [value, zero, Nat.cast_zero, zero_mul, zero_mul] at nearest
  have isZero := isNearest_units 0
  rw [units_zero, Nat.cast_zero] at isZero
  exact nearest.unique isZero

/-- Trailing zeros do not count. -/
theorem value_reduce (significand : Nat) (exponent : Int) :
    (reduce significand exponent).value = value { significand, exponent } := by
  induction significand, exponent using reduce.induct with
  | case1 significand exponent trailing ih =>
      rw [reduce, dif_pos trailing, ih]
      have tenfold : ((significand : ℕ) : ℚ) = (significand / 10 : ℕ) * 10 := by
        exact_mod_cast (Nat.div_mul_cancel (Nat.dvd_of_mod_eq_zero trailing.2)).symm
      unfold value
      rw [tenfold, zpow_add_one₀ (by norm_num)]
      ring
  | case2 significand exponent final => rw [reduce, dif_neg final]

/-- A decimal lies on every finer grid. -/
theorem exists_value_of_finer {decimal : Decimal} {position : Int}
    (finer : position ≤ decimal.exponent) :
    ∃ n : Nat, value { significand := n, exponent := position } = decimal.value := by
  obtain ⟨places, difference⟩ := Int.eq_ofNat_of_zero_le (Int.sub_nonneg_of_le finer)
  have exponent : decimal.exponent = places + position := by
    rw [← difference, Int.sub_add_cancel]
  refine ⟨decimal.significand * 10 ^ places, ?_⟩
  rw [value, value, exponent, zpow_add₀ (by norm_num), zpow_natCast]
  push_cast
  ring

theorem exponent_le_reduce (significand : Nat) (exponent : Int) :
    exponent ≤ (reduce significand exponent).exponent := by
  induction significand, exponent using reduce.induct with
  | case1 significand exponent trailing ih =>
      rw [reduce, dif_pos trailing]
      omega
  | case2 significand exponent final => rw [reduce, dif_neg final]

/-- The exact decimal of a magnitude reads back. -/
theorem code_exactDecimal (code : Nat) : (exactDecimal code).code = code := by
  have value : (exactDecimal code).value * unitsPerOne = units code := by
    have halves : (5 : ℚ) ^ unitPlaces * 2 ^ unitPlaces = 10 ^ unitPlaces := by
      rw [← mul_pow]
      norm_num
    unfold value exactDecimal
    rw [unitsPerOne_eq, zpow_neg, zpow_natCast]
    simp only [Nat.pow_eq]
    push_cast
    rw [mul_assoc, mul_assoc, ← div_eq_inv_mul, ← mul_div_assoc, halves, div_self (by positivity),
      mul_one]
  have nearest := (exactDecimal code).isNearest_code
  rw [value] at nearest
  exact nearest.unique (isNearest_units code)

end Decimal

/-- **The shortest decimal of a number reads back as that number.** -/
theorem code_shortestDecimal (tie : Tie) (code : Nat) :
    (shortestDecimal tie code).code = code := by
  unfold shortestDecimal
  dsimp only
  generalize found : (List.range enoughDigits).findSome? _ = decimal?
  rw [Decimal.code_congr (Decimal.value_reduce _ _)]
  cases decimal? with
  | none => exact Decimal.code_exactDecimal code
  | some decimal =>
      obtain ⟨dropped, _, point⟩ := List.exists_of_findSome?_eq_some found
      exact code_of_gridPoint? point

/-- The search ends on a grid on which a point is found, or before it. -/
theorem exists_gridPoint_of_search (tie : Tie) {code last : Nat} (inside : last < enoughDigits)
    (known : gridPoint? tie code (magnitudeExponent code - last) ≠ none) :
    ∃ dropped decimal, dropped ≤ last ∧
      gridPoint? tie code (magnitudeExponent code - (dropped : Nat)) = some decimal ∧
      shortestDecimal tie code = Decimal.reduce decimal.significand decimal.exponent := by
  unfold shortestDecimal
  dsimp only
  generalize found : (List.range enoughDigits).findSome? _ = decimal?
  cases decimal? with
  | none =>
      exact absurd (List.findSome?_eq_none_iff.mp found _ (List.mem_range.mpr inside)) known
  | some decimal =>
      obtain ⟨dropped, atMost, point⟩ := exists_of_findSome?_range inside known found
      exact ⟨dropped, decimal, atMost, point, rfl⟩

end PocketCalculator
