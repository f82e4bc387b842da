import Mathlib.Algebra.Order.Ring.Abs
import PocketCalculator.Proofs.Number.Decimals
import PocketCalculator.Proofs.Number.Spacing

/-!
# Correct rounding

What a rational number is correctly rounded to is said of the numbers alone: the finite
number at the least distance, of two at the same distance the one with the even code, and
infinity from the point on that lies halfway between the largest finite number and 2¹⁰²⁴
(`Binary64.IsRounded`).

**A quotient is rounded to the one number that it is correctly rounded to**
(`Binary64.isRounded_iff`).  A point is nearer to the lower of two magnitudes exactly if it
lies below their middle (`abs_sub_le_abs_sub_iff`), so the least distance is that of the
nearest code, and the middle above the largest finite number is where the finite codes end
(`IsNearest.lt_finiteCodes_iff`).  It follows that correct rounding keeps the order of the
rational numbers (`Binary64.IsRounded.atMost`).
-/

set_option autoImplicit false

namespace PocketCalculator

/-! ## Distances -/

section Distances

variable {lower upper : ℚ} (less : lower < upper) (point : ℚ)
include less

/-- A point is no farther from the lower end exactly if it is not above the middle. -/
theorem abs_sub_le_abs_sub_iff : |point - lower| ≤ |point - upper| ↔ 2 * point ≤ lower + upper := by
  have squares : (point - upper) ^ 2 - (point - lower) ^ 2
      = (upper - lower) * (lower + upper - 2 * point) := by ring
  rw [← sq_le_sq, ← sub_nonneg, squares, mul_nonneg_iff_of_pos_left (sub_pos.mpr less), sub_nonneg]

theorem abs_sub_ge_abs_sub_iff : |point - upper| ≤ |point - lower| ↔ lower + upper ≤ 2 * point := by
  have squares : (point - lower) ^ 2 - (point - upper) ^ 2
      = (upper - lower) * (2 * point - (lower + upper)) := by ring
  rw [← sq_le_sq, ← sub_nonneg, squares, mul_nonneg_iff_of_pos_left (sub_pos.mpr less), sub_nonneg]

theorem abs_sub_eq_abs_sub_iff : |point - lower| = |point - upper| ↔ 2 * point = lower + upper := by
  rw [le_antisymm_iff, abs_sub_le_abs_sub_iff less, abs_sub_ge_abs_sub_iff less, ← le_antisymm_iff]

end Distances

section Nearest

variable {quotient : ℚ} {code : Nat}

/-- **No magnitude is nearer than that of the nearest code.** -/
theorem IsNearest.abs_sub_le (nearest : IsNearest quotient code) (other : Nat) :
    |quotient - units code| ≤ |quotient - units other| := by
  rcases lt_trichotomy code other with above | rfl | below
  · rw [abs_sub_le_abs_sub_iff (units_cast_lt above)]
    linarith [nearest.le_upper, units_cast_le (Nat.succ_le_of_lt above)]
  · exact le_rfl
  · obtain ⟨previous, rfl⟩ := Nat.exists_eq_succ_of_ne_zero (Nat.ne_zero_of_lt below)
    rw [abs_sub_ge_abs_sub_iff (units_cast_lt below)]
    linarith [nearest.lower_le previous rfl, units_cast_le (Nat.le_of_lt_succ below)]

/-- Only an even code shares the least distance with another. -/
theorem IsNearest.even_of_abs_sub_eq (nearest : IsNearest quotient code) {other : Nat}
    (different : other ≠ code) (tie : |quotient - units code| = |quotient - units other|) :
    code % 2 = 0 := by
  rcases lt_or_gt_of_ne different with below | above
  · obtain ⟨previous, rfl⟩ := Nat.exists_eq_succ_of_ne_zero (Nat.ne_zero_of_lt below)
    rw [eq_comm, abs_sub_eq_abs_sub_iff (units_cast_lt below)] at tie
    apply nearest.even_of_lower previous rfl
    linarith [nearest.lower_le previous rfl, units_cast_le (Nat.le_of_lt_succ below)]
  · rw [abs_sub_eq_abs_sub_iff (units_cast_lt above)] at tie
    apply nearest.even_of_upper
    linarith [nearest.le_upper, units_cast_le (Nat.succ_le_of_lt above)]

/-- A code is nearest if no neighbour is nearer and only an even code shares its distance
with a neighbour. -/
theorem isNearest_of_neighbours
    (upper : |quotient - units code| ≤ |quotient - units (code + 1)|)
    (evenUpper : |quotient - units code| = |quotient - units (code + 1)| → code % 2 = 0)
    (lower : ∀ previous, previous + 1 = code →
      |quotient - units code| ≤ |quotient - units previous|)
    (evenLower : ∀ previous, previous + 1 = code →
      |quotient - units code| = |quotient - units previous| → code % 2 = 0) :
    IsNearest quotient code where
  le_upper := (abs_sub_le_abs_sub_iff (units_cast_lt (Nat.lt_succ_self code)) quotient).mp upper
  even_of_upper tie :=
    evenUpper ((abs_sub_eq_abs_sub_iff (units_cast_lt (Nat.lt_succ_self code)) quotient).mpr tie)
  lower_le := by
    rintro previous rfl
    exact (abs_sub_ge_abs_sub_iff (units_cast_lt (Nat.lt_succ_self previous)) quotient).mp
      (lower previous rfl)
  even_of_lower := by
    rintro previous rfl tie
    refine evenLower previous rfl (Eq.symm ?_)
    exact (abs_sub_eq_abs_sub_iff (units_cast_lt (Nat.lt_succ_self previous)) quotient).mpr tie.symm

end Nearest

/-! ## The end of the finite numbers -/

/-- The point halfway between the largest finite number and 2¹⁰²⁴. -/
def overflowBound : ℚ := 2 ^ 1024 - 2 ^ 970

theorem two_pow_mul_unitsPerOne {power shift : Nat} (places : power + unitPlaces = shift) :
    2 ^ power * unitsPerOne = 2 ^ shift := by
  rw [unitsPerOne_eq, Nat.pow_eq, ← Nat.pow_add, places]

/-- The code after the last finite one would be that of 2¹⁰²⁴. -/
theorem units_finiteCodes : units finiteCodes = 2 ^ 1024 * unitsPerOne := by
  have code : finiteCodes = (2046 + 1) * fractionCodes + 0 := rfl
  have places : 1024 + unitPlaces = 52 + 2046 := by rw [unitPlaces]
  rw [code, units_later_block 2046 fractionCodes_pos, two_pow_mul_unitsPerOne places, Nat.pow_add]

/-- The largest finite number is 2⁹⁷¹ below. -/
theorem units_largest :
    units (finiteCodes - 1) + 2 ^ 971 * unitsPerOne = 2 ^ 1024 * unitsPerOne := by
  have inside : fractionCodes - 1 < fractionCodes := by decide
  have code : finiteCodes - 1 = (2045 + 1) * fractionCodes + (fractionCodes - 1) := rfl
  have row : (fractionCodes + (fractionCodes - 1)).succ = 2 ^ 53 := by decide
  have spacing : 971 + unitPlaces = 2045 := by rw [unitPlaces]
  have places : 1024 + unitPlaces = 53 + 2045 := by rw [unitPlaces]
  rw [code, units_later_block 2045 inside, two_pow_mul_unitsPerOne spacing,
    two_pow_mul_unitsPerOne places, ← Nat.succ_mul, row, Nat.pow_add]

/-- The bound is the middle between the magnitudes of the last finite code and the next. -/
theorem two_mul_overflowBound :
    2 * (overflowBound * unitsPerOne) = (units (finiteCodes - 1) : ℚ) + units finiteCodes := by
  have next : (units finiteCodes : ℚ) = 2 ^ 1024 * unitsPerOne := by
    rw [units_finiteCodes, Nat.cast_mul, Nat.cast_pow, Nat.cast_ofNat]
  have largest : (units (finiteCodes - 1) : ℚ) + 2 ^ 971 * unitsPerOne = units finiteCodes := by
    rw [units_finiteCodes, ← units_largest, Nat.cast_add, Nat.cast_mul, Nat.cast_pow,
      Nat.cast_ofNat]
  have half : (2 : ℚ) ^ 971 = 2 * 2 ^ 970 := pow_succ' 2 970
  rw [half, mul_assoc] at largest
  rw [overflowBound, sub_mul, ← next]
  generalize (2 : ℚ) ^ 970 * unitsPerOne = gap at largest ⊢
  linarith

/-- **The nearest code is finite below the bound, and only there.** -/
theorem IsNearest.lt_finiteCodes_iff {quotient : ℚ} {code : Nat}
    (nearest : IsNearest (quotient * unitsPerOne) code) :
    code < finiteCodes ↔ quotient < overflowBound := by
  have scaled : quotient < overflowBound ↔
      2 * (quotient * unitsPerOne) < (units (finiteCodes - 1) : ℚ) + units finiteCodes := by
    rw [← two_mul_overflowBound, mul_lt_mul_iff_right₀ two_pos,
      mul_lt_mul_iff_left₀ Decimal.unitsPerOne_cast_pos]
  rw [scaled]
  constructor
  · intro finite
    have last : code ≤ finiteCodes - 1 := Nat.le_sub_one_of_lt finite
    have below := units_cast_le last
    have next : (units (code + 1) : ℚ) ≤ units finiteCodes := units_cast_le finite
    by_contra reached
    -- The point would be the middle, which belongs to the even code after the last.
    have middle : 2 * (quotient * unitsPerOne) = units code + units (code + 1) := by
      linarith [nearest.le_upper]
    have same : (units code : ℚ) = units (finiteCodes - 1) := by
      linarith [nearest.le_upper]
    have even := nearest.even_of_upper middle
    rw [units_strictMono.injective (Nat.cast_injective same)] at even
    exact absurd even (by decide)
  · intro below
    by_contra past
    have past : finiteCodes ≤ code := Nat.le_of_not_lt past
    have positive : 0 < finiteCodes := by decide
    obtain ⟨previous, rfl⟩ := Nat.exists_eq_succ_of_ne_zero (positive.trans_le past).ne'
    have lower := nearest.lower_le previous rfl
    have first : (units (finiteCodes - 1) : ℚ) ≤ units previous :=
      units_cast_le (Nat.sub_le_of_le_add past)
    have second := units_cast_le past
    linarith

namespace Binary64

/-! ## Rounded numbers -/

/-- The rational number that a finite number is. -/
def finiteValue (negative : Bool) (code : Nat) : ℚ := signedUnits negative code / unitsPerOne

/-- What a rational number that is not negative is correctly rounded to.  Below the bound
it is a finite number at the least distance, whose code is even if another one is at the
same distance; from the bound on it is infinity. -/
inductive IsRounded (quotient : ℚ) : Binary64 → Prop where
  | finite (code : Fin finiteCodes) (inRange : quotient < overflowBound)
      (nearest : ∀ (negative : Bool) (other : Fin finiteCodes),
        |quotient - finiteValue false code| ≤ |quotient - finiteValue negative other|)
      (even : ∀ (negative : Bool) (other : Fin finiteCodes), other ≠ code →
        |quotient - finiteValue false code| = |quotient - finiteValue negative other| →
          code.val % 2 = 0) :
      IsRounded quotient (.finite false code)
  | infinite (past : overflowBound ≤ quotient) : IsRounded quotient (.infinite false)

/-- Distances of numbers are distances of their units. -/
theorem abs_sub_finiteValue (quotient : ℚ) (negative : Bool) (code : Nat) :
    |quotient - finiteValue negative code|
      = |quotient * unitsPerOne - signedUnits negative code| / unitsPerOne := by
  have ones := Decimal.unitsPerOne_cast_pos
  rw [← abs_of_pos ones, ← abs_div, abs_of_pos ones, sub_div, mul_div_cancel_right₀ _ ones.ne',
    finiteValue]

theorem signedUnits_false (code : Nat) : ((signedUnits false code : ℤ) : ℚ) = units code := rfl

/-- A negative number is at least as far as its magnitude. -/
theorem abs_sub_units_le {point : ℚ} (nonneg : 0 ≤ point) (negative : Bool) (code : Nat) :
    |point - units code| ≤ |point - signedUnits negative code| := by
  cases negative with
  | false => exact le_rfl
  | true =>
      have magnitude : (0 : ℚ) ≤ units code := Nat.cast_nonneg _
      have opposite : ((signedUnits true code : ℤ) : ℚ) = -units code := by
        rw [signedUnits, if_pos rfl, Int.cast_neg, Int.cast_natCast]
      rw [opposite, sub_neg_eq_add, abs_of_nonneg (add_nonneg nonneg magnitude), abs_le]
      constructor <;> linarith

section IsRounded

variable {quotient : ℚ} {code : Fin finiteCodes}

/-- A nearest code that is finite is the number that is rounded to. -/
theorem isRounded_of_isNearest (nonneg : 0 ≤ quotient)
    (nearest : IsNearest (quotient * unitsPerOne) code) :
    IsRounded quotient (.finite false code) := by
  have ones := Decimal.unitsPerOne_cast_pos
  have point := mul_nonneg nonneg ones.le
  refine .finite code (nearest.lt_finiteCodes_iff.mp code.isLt) ?_ ?_
  · intro negative other
    rw [abs_sub_finiteValue, abs_sub_finiteValue, div_le_div_iff_of_pos_right ones]
    exact (nearest.abs_sub_le other).trans (abs_sub_units_le point negative other)
  · intro negative other different tie
    rw [abs_sub_finiteValue, abs_sub_finiteValue, div_left_inj' ones.ne', signedUnits_false] at tie
    -- The magnitude of the other number is at the same distance.
    have magnitude :
        |quotient * unitsPerOne - units code| = |quotient * unitsPerOne - units other| :=
      le_antisymm (nearest.abs_sub_le other)
        ((abs_sub_units_le point negative other).trans tie.ge)
    exact nearest.even_of_abs_sub_eq (fun same => different (Fin.ext same)) magnitude

/-- The number that is rounded to has the nearest code: the bound stands in for the neighbour
above that the largest finite number lacks. -/
theorem IsRounded.isNearest (rounded : IsRounded quotient (.finite false code)) :
    IsNearest (quotient * unitsPerOne) code := by
  have ones := Decimal.unitsPerOne_cast_pos
  cases rounded with
  | finite code inRange nearest even =>
      simp only [abs_sub_finiteValue, div_le_div_iff_of_pos_right ones, div_left_inj' ones.ne',
        signedUnits_false] at nearest even
      have ne_succ : ∀ {first second : Nat}, first + 1 = second → first ≠ second := by omega
      have upper : |quotient * unitsPerOne - units code|
            ≤ |quotient * unitsPerOne - units (code + 1)| ∧
          (|quotient * unitsPerOne - units code| = |quotient * unitsPerOne - units (code + 1)| →
            code.val % 2 = 0) := by
        rcases Nat.lt_or_eq_of_le (Nat.succ_le_of_lt code.isLt) with inside | last
        · exact ⟨nearest false ⟨code + 1, inside⟩, even false ⟨code + 1, inside⟩
            (fun same => ne_succ rfl (congrArg Fin.val same).symm)⟩
        · have largest : code.val = finiteCodes - 1 := Nat.eq_sub_of_add_eq last
          have less : 2 * (quotient * unitsPerOne) < units code + units (code + 1) := by
            rw [Nat.succ_eq_add_one] at last
            rw [last, largest, ← two_mul_overflowBound, mul_lt_mul_iff_right₀ two_pos,
              mul_lt_mul_iff_left₀ ones]
            exact inRange
          rw [abs_sub_le_abs_sub_iff (units_cast_lt (Nat.lt_succ_self _)),
            abs_sub_eq_abs_sub_iff (units_cast_lt (Nat.lt_succ_self _))]
          exact ⟨less.le, fun tie => absurd tie less.ne⟩
      refine isNearest_of_neighbours upper.1 upper.2 ?_ ?_
      · intro previous same
        exact nearest false ⟨previous, by omega⟩
      · intro previous same
        exact even false ⟨previous, by omega⟩ (fun equal => ne_succ same (congrArg Fin.val equal))

end IsRounded

/-- **A quotient is rounded to the one number that it is correctly rounded to.** -/
theorem isRounded_iff {numerator denominator : Nat} (positive : 0 < denominator) {x : Binary64} :
    IsRounded (numerator / denominator) x ↔
      x = nearest false (numerator * unitsPerOne) denominator := by
  have nonneg : (0 : ℚ) ≤ numerator / denominator := by positivity
  have found := isNearest_nearestCode (numerator * unitsPerOne) positive
  rw [Nat.cast_mul, mul_div_right_comm] at found
  unfold nearest
  dsimp only
  constructor
  · intro rounded
    cases rounded with
    | finite code inRange nearest even =>
        have same := (IsRounded.finite code inRange nearest even).isNearest.unique found
        simp only [← same, code.isLt, dif_pos]
    | infinite past =>
        rw [dif_neg (mt found.lt_finiteCodes_iff.mp past.not_gt)]
  · rintro rfl
    split
    · rename_i inside
      have finite : IsNearest (numerator / denominator * unitsPerOne)
          (⟨_, inside⟩ : Fin finiteCodes).val := found
      exact isRounded_of_isNearest nonneg finite
    · rename_i outside
      exact .infinite (le_of_not_gt (mt found.lt_finiteCodes_iff.mpr outside))

/-! ## Order -/

/-- The order of the numbers other than NaN. -/
inductive AtMost : Binary64 → Binary64 → Prop where
  | finite {left right : Bool} {first second : Fin finiteCodes}
      (ordered : finiteValue left first ≤ finiteValue right second) :
      AtMost (.finite left first) (.finite right second)
  | negativeInfinity {x : Binary64} (number : x ≠ .nan) : AtMost (.infinite true) x
  | infinity {x : Binary64} (number : x ≠ .nan) : AtMost x (.infinite false)

/-- **Correct rounding keeps the order.** -/
theorem IsRounded.atMost {first second : ℚ} {x y : Binary64} (roundedFirst : IsRounded first x)
    (roundedSecond : IsRounded second y) (ordered : first ≤ second) : AtMost x y := by
  cases roundedSecond with
  | infinite past =>
      cases roundedFirst with
      | finite _ _ _ _ => exact .infinity nofun
      | infinite _ => exact .infinity nofun
  | finite larger inRange nearest even =>
      cases roundedFirst with
      | infinite past => exact absurd (past.trans ordered) inRange.not_ge
      | finite smaller inRange' nearest' even' =>
          have ones := Decimal.unitsPerOne_cast_pos
          have codes : smaller.val ≤ larger.val :=
            (IsRounded.finite smaller inRange' nearest' even').isNearest.mono
              (IsRounded.finite larger inRange nearest even).isNearest
              (mul_le_mul_of_nonneg_right ordered ones.le)
          refine .finite ?_
          rw [finiteValue, finiteValue, div_le_div_iff_of_pos_right ones]
          exact units_cast_le codes

end Binary64
end PocketCalculator
