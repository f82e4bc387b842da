import Mathlib.Tactic.IntervalCases
import PocketCalculator.Proofs.Number.ExponentLayout
import PocketCalculator.Proofs.Number.Spacing

/-!
# Sums of a mantissa and its exponent

The sum of the mantissa of a number and the exponent of its power of ten (`readSum`)
is never that number again, if the number is too small or too large to be written
out.  For a large exponent the sum is written out
(`code_lt_plainCeiling_of_sum`), and so it is for a negative number with a negative
exponent (`plainFloor_le_code_of_sum`).  A positive mantissa can be close above the
size of a negative exponent, and the sum is small then.  But both the sum and the
mantissa are multiples of a large spacing, so for the sum to be the number a multiple
of `10 ^ size - 1` would have to lie near `size * 2 ^ 50`, and none does
(`not_near_multiple`).
-/

set_option autoImplicit false

namespace PocketCalculator

/-! ## Sums of finite numbers -/

namespace Binary64

/-- A sum that is not zero is the rounding of the sum of the units. -/
theorem of_add_eq_finite {left right negative : Bool} {leftCode rightCode code : Fin finiteCodes}
    (added : add (finite left leftCode) (finite right rightCode) = finite negative code)
    (nonzero : code.val ≠ 0) :
    negative = decide (signedUnits left leftCode + signedUnits right rightCode < 0) ∧
      nearestCode (signedUnits left leftCode + signedUnits right rightCode).natAbs 1 = code := by
  rw [add] at added
  split at added
  · injection added with _ same
    exact absurd (congrArg Fin.val same).symm nonzero
  · rw [nearest] at added
    split at added
    · injection added with sign same
      exact ⟨sign.symm, congrArg Fin.val same⟩
    · contradiction

end Binary64

open Binary64 (signedUnits)

/-- The sum of a mantissa, given by its sign and code, and an exponent, in units. -/
def readSum (negative : Bool) (mantissa : Nat) (leading : Int) : Int :=
  signedUnits negative mantissa + leading * unitsPerOne

/-! ## Small sums -/

/-- No multiple of `10 ^ size - 1` lies near `size * 2 ^ 50`, for the sizes of exponents
that a mantissa can come near to.  Both sides are scaled by `2 ^ 23`. -/
theorem not_near_multiple {size k : Nat} (low : 7 ≤ size) (high : size ≤ 10)
    (above : size * 2 ^ 73 + 2 ^ 23 * k ≤ 10 ^ size * (2 ^ 23 * k) + (2 * 10 ^ size + 2 ^ 23)) :
    ¬ 10 ^ size * (2 ^ 23 * k) ≤ size * 2 ^ 73 + 2 ^ 23 * k + (2 * 10 ^ size + 2 ^ 23) := by
  interval_cases size <;> omega

/-- A mantissa is a multiple of a large spacing, and so is what is left of it when a
whole number is taken away. -/
theorem exists_multiple {mantissa size places total : Nat}
    (ones : unitsPerOne = 2 ^ 72 * 2 ^ places) (low : 7 ≤ size)
    (sum : total + size * unitsPerOne = units mantissa) :
    ∃ k, total = 2 ^ 22 * 2 ^ places * k := by
  have large : 2 ^ (52 + (22 + places)) ≤ units mantissa := by
    calc 2 ^ (52 + (22 + places)) = 4 * unitsPerOne := by
          rw [ones, Nat.pow_add, Nat.pow_add]
          ring
      _ ≤ size * unitsPerOne := Nat.mul_le_mul_right _ (by omega)
      _ ≤ units mantissa := sum ▸ Nat.le_add_left _ _
  have multiple := two_pow_dvd_units large
  rw [Nat.pow_add] at multiple
  have whole : 2 ^ 22 * 2 ^ places ∣ size * unitsPerOne := by
    rw [ones]
    exact ⟨size * 2 ^ 50, by ring⟩
  rw [← sum] at multiple
  exact (Nat.dvd_add_left whole).mp multiple

/-- A mantissa, which is at most ten, is below 2⁵³ spacings of this size. -/
theorem mantissa_lt_spacings {mantissa places : Nat} (ones : unitsPerOne = 2 ^ 72 * 2 ^ places)
    (ceiling : units mantissa ≤ 10 * unitsPerOne) : units mantissa < 2 ^ (53 + (places + 23)) := by
  calc units mantissa ≤ 10 * unitsPerOne := ceiling
    _ < 16 * unitsPerOne := Nat.mul_lt_mul_of_pos_right (by decide) unitsPerOne_pos
    _ = 2 ^ (53 + (places + 23)) := by
        rw [ones, Nat.pow_add, Nat.pow_add]
        ring

/-- What is left of a mantissa above the size of a negative exponent is not the
number with that mantissa and exponent. -/
theorem nearestCode_ne_of_sum {decimal : Decimal} {mantissa code size total places : Nat}
    (mantissaReads : decimal.mantissa.code = mantissa) (reads : decimal.code = code)
    (exponent : decimal.leadingExponent = -(size : Int)) (low : 7 ≤ size) (high : size ≤ 10)
    (ones : unitsPerOne = 2 ^ 72 * 2 ^ places) (ceiling : units mantissa ≤ 10 * unitsPerOne)
    (small : units code < 2 ^ (53 + places)) (sum : total + size * unitsPerOne = units mantissa) :
    nearestCode total 1 ≠ code := by
  intro rounded
  obtain ⟨k, multiple⟩ := exists_multiple ones low sum
  -- The three roundings: of the number, of its mantissa, and of the sum.
  have nearNumber := decimal.isNearest_code
  have nearMantissa := decimal.mantissa.isNearest_code
  have nearSum := isNearest_nearestCode total Nat.one_pos
  rw [reads] at nearNumber
  rw [mantissaReads, Decimal.value_mantissa_of_neg exponent, mul_assoc] at nearMantissa
  rw [rounded, Nat.cast_one, div_one] at nearSum
  have nonneg : 0 ≤ decimal.value * unitsPerOne := by
    rw [Decimal.value]
    positivity
  have power : (0 : ℚ) ≤ 10 ^ size := by positivity
  have smallMantissa := mantissa_lt_spacings ones ceiling
  have mantissaAbove := nearMantissa.le_add_spacing smallMantissa
  have mantissaBelow := nearMantissa.sub_spacing_le smallMantissa (mul_nonneg power nonneg)
  -- The number and the sum are close, and so they are when the number is scaled to its mantissa.
  have closeAbove := mul_le_mul_of_nonneg_left
    (nearNumber.le_add_of_same small nearSum (Nat.cast_nonneg _)) power
  have closeBelow := mul_le_mul_of_nonneg_left
    (nearSum.le_add_of_same small nearNumber nonneg) power
  have units_eq : (units mantissa : ℚ) = total + size * unitsPerOne := by exact_mod_cast sum.symm
  have total_eq : (total : ℚ) = 2 ^ 22 * 2 ^ places * k := by exact_mod_cast multiple
  have ones_eq : (unitsPerOne : ℚ) = 2 ^ 72 * 2 ^ places := by exact_mod_cast ones
  rw [mul_add, total_eq] at closeAbove closeBelow
  rw [pow_add, units_eq, total_eq] at mantissaAbove mantissaBelow
  generalize 10 ^ size * (decimal.value * (unitsPerOne : ℚ)) = scaledUnits at *
  rw [ones_eq] at mantissaAbove mantissaBelow
  have spacing : (0 : ℚ) < 2 ^ places := by positivity
  have above : (size * 2 ^ 73 + 2 ^ 23 * k : ℚ)
      ≤ 10 ^ size * (2 ^ 23 * k) + (2 * 10 ^ size + 2 ^ 23) := by
    apply le_of_mul_le_mul_right _ spacing
    linarith
  have below : (10 ^ size * (2 ^ 23 * k) : ℚ)
      ≤ size * 2 ^ 73 + 2 ^ 23 * k + (2 * 10 ^ size + 2 ^ 23) := by
    apply le_of_mul_le_mul_right _ spacing
    linarith
  exact not_near_multiple low high (by exact_mod_cast above) (by exact_mod_cast below)

/-! ## All sums -/

theorem nearestCode_mono {first second : Nat} (ordered : first ≤ second) :
    nearestCode first 1 ≤ nearestCode second 1 :=
  nearestCode_le_nearestCode Nat.one_pos Nat.one_pos
    (div_le_div_of_nonneg_right (by exact_mod_cast ordered) (by norm_num))

/-- A mantissa and a large exponent have a sum that is written out. -/
theorem code_lt_plainCeiling_of_sum {negative : Bool} {mantissa code : Nat} {leading : Int}
    (ceiling : units mantissa ≤ 10 * unitsPerOne)
    (sign : negative = decide (readSum negative mantissa leading < 0))
    (rounded : nearestCode (readSum negative mantissa leading).natAbs 1 = code)
    (low : 21 ≤ leading) (high : leading < 324) : code < plainCeiling := by
  have ones := unitsPerOne_pos
  cases negative with
  | true =>
      rw [readSum, Binary64.signedUnits, if_pos rfl, eq_comm, decide_eq_true_eq] at sign
      nlinarith
  | false =>
      rw [readSum, Binary64.signedUnits, if_neg Bool.false_ne_true] at rounded
      have bounded : ((units mantissa : Int) + leading * unitsPerOne).natAbs
          ≤ 334 * unitsPerOne := by
        have : leading * unitsPerOne ≤ 324 * unitsPerOne := by nlinarith
        have : 0 ≤ leading * unitsPerOne := by positivity
        omega
      have last : nearestCode (334 * unitsPerOne) 1 < plainCeiling := by decide +kernel
      rw [← rounded]
      exact (nearestCode_mono bounded).trans_lt last

/-- A negative mantissa and a negative exponent have a sum that is written out. -/
theorem plainFloor_le_code_of_sum {mantissa code : Nat} {leading : Int}
    (floor : unitsPerOne ≤ units mantissa) (below : leading ≤ 0)
    (rounded : nearestCode (readSum true mantissa leading).natAbs 1 = code) :
    plainFloor ≤ code := by
  rw [readSum, Binary64.signedUnits, if_pos rfl] at rounded
  have bounded : unitsPerOne ≤ (-(units mantissa : Int) + leading * unitsPerOne).natAbs := by
    have : leading * unitsPerOne ≤ 0 := by nlinarith [unitsPerOne_pos]
    omega
  have first : plainFloor ≤ nearestCode unitsPerOne 1 := by decide +kernel
  rw [← rounded]
  exact first.trans (nearestCode_mono bounded)

/-- **A small number is not the sum of its mantissa and its exponent.** -/
theorem not_small_of_sum {negative : Bool} {decimal : Decimal} {mantissa code : Nat}
    (mantissaReads : decimal.mantissa.code = mantissa) (reads : decimal.code = code)
    (floor : unitsPerOne ≤ units mantissa) (ceiling : units mantissa ≤ 10 * unitsPerOne)
    (sign : negative = decide (readSum negative mantissa decimal.leadingExponent < 0))
    (rounded : nearestCode (readSum negative mantissa decimal.leadingExponent).natAbs 1 = code)
    (low : decimal.leadingExponent ≤ -7) : ¬ code < plainFloor := by
  intro small
  cases negative with
  | true =>
      exact absurd small (Nat.not_lt.mpr (plainFloor_le_code_of_sum floor (by omega) rounded))
  | false =>
      obtain ⟨size, exponent⟩ := Int.eq_ofNat_of_zero_le (by omega : 0 ≤ -decimal.leadingExponent)
      have exponent : decimal.leadingExponent = -(size : Int) := by omega
      have ones := unitsPerOne_pos
      rw [readSum, Binary64.signedUnits, if_neg Bool.false_ne_true, exponent, eq_comm,
        decide_eq_false_iff_not] at sign
      rw [readSum, Binary64.signedUnits, if_neg Bool.false_ne_true, exponent] at rounded
      have nonneg : size * unitsPerOne ≤ units mantissa := by
        have : (size : Int) * unitsPerOne ≤ units mantissa := by linarith
        exact_mod_cast this
      obtain ⟨total, sum⟩ := Nat.exists_eq_add_of_le' nonneg
      have natAbs : ((units mantissa : Int) + -(size : Int) * unitsPerOne).natAbs = total := by
        rw [sum]
        push_cast
        rw [neg_mul, add_neg_cancel_right, Int.natAbs_natCast]
      have atMost : size ≤ 10 := Nat.le_of_mul_le_mul_right (nonneg.trans ceiling) ones
      have spaced : unitsPerOne = 2 ^ 72 * 2 ^ 1002 := by decide +kernel
      have range : units plainFloor < 2 ^ (53 + 1002) := by decide +kernel
      rw [natAbs] at rounded
      exact nearestCode_ne_of_sum mantissaReads reads exponent (by omega) atMost spaced ceiling
        ((units_strictMono small).trans range) sum.symm rounded

end PocketCalculator
