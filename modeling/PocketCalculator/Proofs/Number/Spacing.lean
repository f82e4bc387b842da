import PocketCalculator.Proofs.Number.Nearest

/-!
# The spacing of magnitudes

Magnitudes are multiples of their spacing, and the spacing grows with them: from
2⁵² spacings on a magnitude is a multiple of the spacing (`two_pow_dvd_units`), and
up to 2⁵³ spacings the next magnitude is at most one spacing away
(`units_succ_le`).

**Rounding moves a number by at most half the spacing** (`IsNearest.le_add_spacing`,
`IsNearest.sub_spacing_le`).  A bound on a distance is written as two inequalities,
one for each side.  Numbers that are rounded alike are therefore close
(`IsNearest.le_add_of_same`).  In turn a number that is close to a magnitude, measured by
the magnitude itself, is rounded to it (`IsNearest.of_close`).
-/

set_option autoImplicit false

namespace PocketCalculator

theorem fractionCodes_eq : fractionCodes = 2 ^ 52 := by decide

theorem two_mul_fractionCodes : 2 * fractionCodes = 2 ^ 53 := by decide

/-- **Large magnitudes are multiples of a large spacing.** -/
theorem two_pow_dvd_units {code places : Nat} (large : 2 ^ (52 + places) ≤ units code) :
    2 ^ places ∣ units code := by
  obtain ⟨shift, row, rfl, inside, place⟩ := exists_block code
  rw [units_block inside.le place] at large ⊢
  have enough : places ≤ shift := by
    have bits : 2 ^ (52 + places) < 2 ^ (53 + shift) := by
      calc 2 ^ (52 + places) ≤ row * 2 ^ shift := large
        _ < 2 * fractionCodes * 2 ^ shift :=
          Nat.mul_lt_mul_of_pos_right inside (Nat.two_pow_pos shift)
        _ = 2 ^ (53 + shift) := by
          rw [two_mul_fractionCodes, Nat.pow_add]
    have := (Nat.pow_lt_pow_iff_right (by decide)).mp bits
    omega
  exact Dvd.dvd.mul_left (Nat.pow_dvd_pow 2 enough) row

section Spacing

variable {code places : Nat} (small : units code < 2 ^ (53 + places))
include small

/-- The next magnitude is at most one spacing away. -/
theorem units_succ_le : units (code + 1) ≤ units code + 2 ^ places := by
  obtain ⟨shift, row, rfl, inside, place⟩ := exists_block code
  rw [units_block inside.le place] at small ⊢
  have next : units (shift * fractionCodes + row + 1) = (row + 1) * 2 ^ shift := by
    rw [Nat.add_assoc]
    exact units_block inside (place.imp_right Nat.le_succ_of_le)
  have narrow : shift ≤ places := by
    rcases place with rfl | later
    · exact Nat.zero_le places
    · have bits : 2 ^ (52 + shift) < 2 ^ (53 + places) := by
        calc 2 ^ (52 + shift) = fractionCodes * 2 ^ shift := by rw [fractionCodes_eq, Nat.pow_add]
          _ ≤ row * 2 ^ shift := Nat.mul_le_mul_right _ later
          _ < 2 ^ (53 + places) := small
      have := (Nat.pow_lt_pow_iff_right (by decide)).mp bits
      omega
  rw [next, Nat.succ_mul]
  exact Nat.add_le_add_left (Nat.pow_le_pow_right (by decide) narrow) _

/-- A number lies at most half a spacing above the magnitude it is rounded to. -/
theorem IsNearest.le_add_spacing {quotient : ℚ} (nearest : IsNearest quotient code) :
    2 * quotient ≤ 2 * units code + 2 ^ places := by
  have next : (units (code + 1) : ℚ) ≤ units code + 2 ^ places := by
    exact_mod_cast units_succ_le small
  linarith [nearest.le_upper]

/-- A number that is not negative lies at most half a spacing below the magnitude it
is rounded to. -/
theorem IsNearest.sub_spacing_le {quotient : ℚ} (nearest : IsNearest quotient code)
    (nonneg : 0 ≤ quotient) : 2 * (units code : ℚ) ≤ 2 * quotient + 2 ^ places := by
  cases code with
  | zero =>
      have spacing : (0 : ℚ) ≤ 2 ^ places := by positivity
      rw [units_zero, Nat.cast_zero]
      linarith
  | succ previous =>
      have smaller := (units_lt_units_succ previous).trans small
      have before : (units (previous + 1) : ℚ) ≤ units previous + 2 ^ places := by
        exact_mod_cast units_succ_le smaller
      linarith [nearest.lower_le previous rfl]

/-- Numbers that are rounded to the same magnitude are at most one spacing apart. -/
theorem IsNearest.le_add_of_same {first second : ℚ} (nearFirst : IsNearest first code)
    (nearSecond : IsNearest second code) (nonneg : 0 ≤ second) :
    first ≤ second + 2 ^ places := by
  linarith [nearFirst.le_add_spacing small, nearSecond.sub_spacing_le small nonneg]

end Spacing

/-! ## Numbers close to a magnitude -/

/-- The spacing below a magnitude is not less than its part of 2⁵³. -/
theorem units_succ_le_gap (code : Nat) :
    units (code + 1) + 2 ^ 53 * units code ≤ 2 ^ 53 * units (code + 1) := by
  obtain ⟨shift, row, rfl, inside, place⟩ := exists_block code
  have next : units (shift * fractionCodes + row + 1) = (row + 1) * 2 ^ shift := by
    rw [Nat.add_assoc]
    exact units_block inside (place.imp_right Nat.le_succ_of_le)
  have bound : (row + 1) * 2 ^ shift ≤ 2 ^ 53 * 2 ^ shift := by
    rw [← two_mul_fractionCodes]
    exact Nat.mul_le_mul_right _ inside
  rw [next, units_block inside.le place]
  linarith

/-- **What is closer to a magnitude than its part of 2⁵⁴ is rounded to it.** -/
theorem IsNearest.of_close {code : Nat} {quotient : ℚ}
    (above : 2 ^ 54 * (quotient - units code) < units code)
    (below : 2 ^ 54 * (units code - quotient) < units code) : IsNearest quotient code := by
  have order : (units code : ℚ) < units (code + 1) := by
    exact_mod_cast units_lt_units_succ code
  have gap : (units (code + 1) : ℚ) + 2 ^ 53 * units code ≤ 2 ^ 53 * units (code + 1) := by
    exact_mod_cast units_succ_le_gap code
  have upper : 2 * quotient < units code + units (code + 1) := by linarith
  have lower : ∀ previous, previous + 1 = code →
      (units previous + units code : ℚ) < 2 * quotient := by
    rintro previous rfl
    have gap : (units (previous + 1) : ℚ) + 2 ^ 53 * units previous
        ≤ 2 ^ 53 * units (previous + 1) := by
      exact_mod_cast units_succ_le_gap previous
    linarith
  exact ⟨upper.le, fun tie => absurd tie upper.ne, fun previous same => (lower previous same).le,
    fun previous same tie => absurd tie (lower previous same).ne⟩

end PocketCalculator
