import PocketCalculator.Proofs.Number.PlainLayout
import PocketCalculator.Proofs.Number.Whole

/-!
# Numbers that are written with a power of ten

Outside the range that is written out (`ShownPlain`) the display writes a mantissa
from one to below ten and a power of ten (`numeral_of_not_range`).  The mantissa is
the shortest decimal with its point after the first digit (`Decimal.mantissa`), so
its digits denote a number from one to ten (`exists_code_mantissa`); and the power
is no greater than the range of the finite numbers allows
(`leadingExponent_bounds`).
-/

set_option autoImplicit false

namespace PocketCalculator

/-! ## Codes between whole numbers -/

section Between

variable {decimal : Decimal} {n : Nat} (small : n ≤ wholeBound)
include small

/-- A decimal up to a whole number has a finite code up to that number. -/
theorem exists_code_of_le_whole (bounded : decimal.value ≤ n) :
    ∃ code : Fin finiteCodes, decimal.code = code ∧ units code ≤ n * unitsPerOne := by
  obtain ⟨bound, exact⟩ := exists_code_of_whole small
  have nearest := isNearest_units bound
  rw [exact, Nat.cast_mul] at nearest
  have ordered : decimal.code ≤ bound := decimal.isNearest_code.mono nearest
    (mul_le_mul_of_nonneg_right bounded Decimal.unitsPerOne_cast_pos.le)
  refine ⟨⟨decimal.code, ordered.trans_lt bound.isLt⟩, rfl, ?_⟩
  rw [← exact]
  exact units_strictMono.monotone ordered

/-- A decimal from a whole number on has a code from that number on. -/
theorem le_units_code_of_whole (bounded : (n : ℚ) ≤ decimal.value) :
    n * unitsPerOne ≤ units decimal.code := by
  obtain ⟨bound, exact⟩ := exists_code_of_whole small
  have nearest := isNearest_units bound
  rw [exact, Nat.cast_mul] at nearest
  have ordered : bound.val ≤ decimal.code := nearest.mono decimal.isNearest_code
    (mul_le_mul_of_nonneg_right bounded Decimal.unitsPerOne_cast_pos.le)
  rw [← exact]
  exact units_strictMono.monotone ordered

end Between

/-! ## Mantissas -/

namespace Decimal

/-- The decimal with its point after the first digit. -/
def mantissa (decimal : Decimal) : Decimal :=
  { significand := decimal.significand, exponent := decimal.exponent - decimal.leadingExponent }

theorem value_eq_mantissa (decimal : Decimal) :
    decimal.value = decimal.mantissa.value * (10 : ℚ) ^ decimal.leadingExponent := by
  have tens : (10 : ℚ) ≠ 0 := by norm_num
  rw [value, value, mantissa, mul_assoc, ← zpow_add₀ tens, Int.sub_add_cancel]

/-- With a negative exponent the mantissa is the greater number. -/
theorem value_mantissa_of_neg {decimal : Decimal} {size : Nat}
    (exponent : decimal.leadingExponent = -(size : Int)) :
    decimal.mantissa.value = 10 ^ size * decimal.value := by
  rw [value_eq_mantissa decimal, exponent, zpow_neg, zpow_natCast]
  field_simp

theorem mantissa_lt_ten (decimal : Decimal) : decimal.mantissa.value < 10 := by
  have tens : (10 : ℚ) ≠ 0 := by norm_num
  have power : (0 : ℚ) < (10 : ℚ) ^ decimal.leadingExponent := by positivity
  have next := decimal.value_lt_pow
  rw [value_eq_mantissa, zpow_add_one₀ tens, mul_comm] at next
  exact lt_of_mul_lt_mul_left next power.le

theorem one_le_mantissa {decimal : Decimal} (nonzero : decimal.significand ≠ 0) :
    1 ≤ decimal.mantissa.value := by
  have power : (0 : ℚ) < (10 : ℚ) ^ decimal.leadingExponent := by positivity
  have first := pow_leadingExponent_le nonzero
  rw [value_eq_mantissa] at first
  exact (le_mul_iff_one_le_left power).mp first

/-- A mantissa is a number from one to ten. -/
theorem exists_code_mantissa {decimal : Decimal} (nonzero : decimal.significand ≠ 0) :
    ∃ code : Fin finiteCodes, decimal.mantissa.code = code ∧ unitsPerOne ≤ units code ∧
      units code ≤ 10 * unitsPerOne := by
  have atMost : decimal.mantissa.value ≤ (10 : Nat) := by exact_mod_cast decimal.mantissa_lt_ten.le
  have atLeast : ((1 : Nat) : ℚ) ≤ decimal.mantissa.value := by
    exact_mod_cast one_le_mantissa nonzero
  obtain ⟨code, same, upper⟩ := exists_code_of_le_whole (by decide) atMost
  have lower := le_units_code_of_whole (by decide) atLeast
  rw [same, Nat.one_mul] at lower
  exact ⟨code, same, lower, upper⟩

/-- The digits of a decimal around a point after the first one. -/
theorem magnitude_mantissa (decimal : Decimal) :
    Numeral.magnitude { whole := decimal.digits.take 1, fraction := decimal.digits.drop 1 }
      = decimal.mantissa.value := by
  have significand : Digits.value decimal.digits = decimal.significand := Digits.value_ofNat _
  have some_digit : 0 < decimal.digits.length := Digits.length_ofNat_pos _
  have exponent : decimal.exponent - decimal.leadingExponent
      = -((decimal.digits.drop 1).length : ℤ) := by
    rw [leadingExponent, List.length_drop]
    omega
  rw [Layout.magnitude_plainDigits, List.take_append_drop, significand, value, mantissa, exponent,
    zpow_neg, zpow_natCast, div_eq_mul_inv]

end Decimal

/-! ## Outside the range that is written out -/

/-- Ten to the 21st is the least number with its exponent. -/
theorem leadingExponent_plainCeiling :
    (shortestDecimal displayLayout.tie plainCeiling).leadingExponent
      = displayLayout.plainBelow := by
  decide +kernel

section Outside

variable {code : Nat} (nonzero : code ≠ 0)
include nonzero

theorem leadingExponent_lt_of_lt_plainFloor (small : code < plainFloor) :
    (shortestDecimal displayLayout.tie code).leadingExponent < displayLayout.plainFrom := by
  by_contra inside
  have above : Decimal.value { significand := 1, exponent := -6 }
      ≤ (shortestDecimal displayLayout.tie code).value := by
    rw [value_one]
    have first := Decimal.pow_leadingExponent_le
      (@significand_shortestDecimal_ne_zero displayLayout.tie code nonzero)
    refine le_trans ?_ first
    apply zpow_le_zpow_right₀ (by norm_num)
    have : displayLayout.plainFrom = -6 := rfl
    omega
  have atLeast := Decimal.code_le_code above
  rw [code_shortestDecimal] at atLeast
  exact absurd small (Nat.not_lt.mpr atLeast)

omit nonzero in
theorem le_leadingExponent_of_plainCeiling_le (large : plainCeiling ≤ code) :
    displayLayout.plainBelow ≤ (shortestDecimal displayLayout.tie code).leadingExponent := by
  by_contra inside
  have below : (shortestDecimal displayLayout.tie code).value
      ≤ Decimal.value { significand := 1, exponent := 21 } := by
    rw [value_one]
    apply (Decimal.value_lt_pow _).le.trans
    apply zpow_le_zpow_right₀ (by norm_num)
    have : displayLayout.plainBelow = 21 := rfl
    omega
  have atMost := Decimal.code_le_code below
  rw [code_shortestDecimal] at atMost
  have atCeiling : code = plainCeiling := Nat.le_antisymm atMost large
  rw [atCeiling] at inside
  exact inside leadingExponent_plainCeiling.ge

/-- A number outside the range is written with a power of ten. -/
theorem numeral_of_not_range (negative : Bool) (outside : code < plainFloor ∨ plainCeiling ≤ code) :
    displayLayout.numeral negative code
      = Layout.scientific negative (shortestDecimal displayLayout.tie code) := by
  have notPlain : ¬ (displayLayout.plainFrom
        ≤ (shortestDecimal displayLayout.tie code).leadingExponent ∧
      (shortestDecimal displayLayout.tie code).leadingExponent < displayLayout.plainBelow) := by
    rintro ⟨low, high⟩
    rcases outside with small | large
    · exact absurd low (not_le.mpr (leadingExponent_lt_of_lt_plainFloor nonzero small))
    · exact absurd high (not_lt.mpr (le_leadingExponent_of_plainCeiling_le large))
  rw [Layout.numeral, if_neg nonzero, Layout.arrange, if_neg notPlain]

end Outside

/-! ## The exponents of finite numbers -/

section Finite

variable {decimal : Decimal} {code : Fin finiteCodes} (reads : decimal.code = code)
include reads

/-- A decimal that is read as a number other than zero is at least half a unit. -/
theorem one_le_two_mul_value (nonzero : code.val ≠ 0) :
    (1 : ℚ) ≤ 2 * (decimal.value * unitsPerOne) := by
  have nearest := decimal.isNearest_code
  rw [reads] at nearest
  obtain ⟨previous, same⟩ := Nat.exists_eq_succ_of_ne_zero nonzero
  have unit : 1 ≤ units code := Nat.pos_of_ne_zero fun none => nonzero (units_eq_zero.mp none)
  have unit : (1 : ℚ) ≤ units code := by exact_mod_cast unit
  have before : (0 : ℚ) ≤ units previous := Nat.cast_nonneg _
  linarith [nearest.lower_le previous same.symm]

/-- A decimal that is read as a finite number is no greater than the number of units in one. -/
theorem value_le_unitsPerOne : decimal.value ≤ unitsPerOne := by
  have nearest := decimal.isNearest_code
  rw [reads] at nearest
  have last : units finiteCodes ≤ unitsPerOne * unitsPerOne := by decide +kernel
  have next : (units (code + 1) : ℚ) ≤ unitsPerOne * unitsPerOne := by
    exact_mod_cast (units_strictMono.monotone code.isLt).trans last
  have here : (units code : ℚ) ≤ units (code + 1) := by
    exact_mod_cast (units_lt_units_succ code).le
  apply le_of_mul_le_mul_right _ Decimal.unitsPerOne_cast_pos
  linarith [nearest.le_upper]

end Finite

/-- A unit is no smaller than this power of ten. -/
theorem two_mul_unitsPerOne_lt : 2 * (unitsPerOne : ℚ) < (10 : ℚ) ^ (324 : ℤ) := by
  have : 2 * unitsPerOne < 10 ^ 324 := by decide +kernel
  exact_mod_cast this

/-- **The power of ten of a finite number is bounded on both sides**, by the least
magnitude and by the end of the codes. -/
theorem leadingExponent_bounds (tie : Tie) (code : Fin finiteCodes) (nonzero : code.val ≠ 0) :
    -325 < (shortestDecimal tie code).leadingExponent ∧
      (shortestDecimal tie code).leadingExponent < 324 := by
  have reads := code_shortestDecimal tie code
  have half := one_le_two_mul_value reads nonzero
  have bounded := value_le_unitsPerOne reads
  have first := Decimal.pow_leadingExponent_le
    (@significand_shortestDecimal_ne_zero tie code nonzero)
  have next := (shortestDecimal tie code).value_lt_pow
  have tens : (10 : ℚ) ≠ 0 := by norm_num
  have ones := Decimal.unitsPerOne_cast_pos
  generalize (shortestDecimal tie code).leadingExponent = leading at first next ⊢
  generalize (shortestDecimal tie code).value = value at half bounded first next
  constructor
  · have power : (10 : ℚ) ^ (0 : ℤ) < 10 ^ (leading + 1 + 324) := by
      rw [zpow_zero, zpow_add₀ tens]
      calc (1 : ℚ) ≤ value * (2 * unitsPerOne) := by linarith
        _ < 10 ^ (leading + 1) * (2 * unitsPerOne) :=
          mul_lt_mul_of_pos_right next (by positivity)
        _ ≤ 10 ^ (leading + 1) * 10 ^ (324 : ℤ) :=
          mul_le_mul_of_nonneg_left two_mul_unitsPerOne_lt.le (by positivity)
    have := (zpow_lt_zpow_iff_right₀ (by norm_num)).mp power
    omega
  · have power : (10 : ℚ) ^ leading < 10 ^ (324 : ℤ) := by
      calc (10 : ℚ) ^ leading ≤ unitsPerOne := first.trans bounded
        _ ≤ 2 * unitsPerOne := by linarith
        _ < 10 ^ (324 : ℤ) := two_mul_unitsPerOne_lt
    exact (zpow_lt_zpow_iff_right₀ (by norm_num)).mp power

end PocketCalculator
