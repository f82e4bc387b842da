import PocketCalculator.Proofs.Number.PlainLayout
import PocketCalculator.Proofs.Number.Spacing

/-!
# Fewest digits

The search for the shortest decimal tries the grids with 1, 2, …, 17 digits at the decade
of the magnitude (`magnitudeExponent_spec`), and of each grid only the two points that
enclose the magnitude.  Nothing is missed by that.  A decimal with few digits that reads
back lies on the grid with as many digits, or beyond an end of the decade, which is on
that grid (`exists_gridDecimal`).  If any point of a grid reads back, then so does one of
the two that enclose the magnitude, because rounding is monotone
(`gridPoint?_ne_none_of_code`).  And seventeen digits always suffice
(`exists_seventeenDigits`).

**No decimal that reads back has fewer digits than the shortest decimal**
(`significand_shortestDecimal_lt`).
-/

set_option autoImplicit false

namespace PocketCalculator

/-! ## Magnitudes as rational numbers -/

/-- The magnitude of a code as a rational number. -/
def magnitudeValue (code : Nat) : ℚ := units code / unitsPerOne

theorem magnitudeValue_mul_unitsPerOne (code : Nat) :
    magnitudeValue code * unitsPerOne = units code :=
  div_mul_cancel₀ _ Decimal.unitsPerOne_cast_pos.ne'

theorem magnitudeValue_pos {code : Nat} (nonzero : code ≠ 0) : 0 < magnitudeValue code := by
  have positive : 0 < units code := Nat.pos_of_ne_zero fun none => nonzero (units_eq_zero.mp none)
  exact div_pos (by exact_mod_cast positive) Decimal.unitsPerOne_cast_pos

namespace Decimal

variable {decimal : Decimal} {code : Nat}

/-- A decimal that is not greater than a magnitude has no greater code. -/
theorem code_le_of_value_le (bounded : decimal.value ≤ magnitudeValue code) :
    decimal.code ≤ code := by
  have scaled := mul_le_mul_of_nonneg_right bounded unitsPerOne_cast_pos.le
  rw [magnitudeValue_mul_unitsPerOne] at scaled
  exact decimal.isNearest_code.mono (isNearest_units code) scaled

theorem le_code_of_le_value (bounded : magnitudeValue code ≤ decimal.value) :
    code ≤ decimal.code := by
  have scaled := mul_le_mul_of_nonneg_right bounded unitsPerOne_cast_pos.le
  rw [magnitudeValue_mul_unitsPerOne] at scaled
  exact (isNearest_units code).mono decimal.isNearest_code scaled

/-- What lies between a decimal that reads back and the magnitude reads back. -/
theorem code_eq_of_between_below {other : Decimal} (reads : decimal.code = code)
    (low : decimal.value ≤ other.value) (high : other.value ≤ magnitudeValue code) :
    other.code = code := by
  apply Nat.le_antisymm (code_le_of_value_le high)
  rw [← reads]
  exact code_le_code low

theorem code_eq_of_between_above {other : Decimal} (reads : decimal.code = code)
    (low : magnitudeValue code ≤ other.value) (high : other.value ≤ decimal.value) :
    other.code = code := by
  apply Nat.le_antisymm _ (le_code_of_le_value low)
  rw [← reads]
  exact code_le_code high

end Decimal

/-! ## The decade of a magnitude -/

/-- **The exponent of a magnitude is that of its first digit.** -/
theorem magnitudeExponent_spec {code : Nat} (nonzero : code ≠ 0) :
    (10 : ℚ) ^ magnitudeExponent code ≤ magnitudeValue code ∧
      magnitudeValue code < (10 : ℚ) ^ (magnitudeExponent code + 1) := by
  have tens : (10 : ℚ) ≠ 0 := by norm_num
  have positive : 0 < units code := Nat.pos_of_ne_zero fun none => nonzero (units_eq_zero.mp none)
  have enough : unitsPerOne ≤ 10 ^ searchPlaces := by decide +kernel
  have scaled : 0 < units code * 10 ^ searchPlaces / unitsPerOne :=
    Nat.div_pos (enough.trans (Nat.le_mul_of_pos_left _ positive)) unitsPerOne_pos
  have first := Digits.pow_length_le scaled
  have next := Digits.lt_pow_length (units code * 10 ^ searchPlaces / unitsPerOne)
  unfold magnitudeExponent
  rw [Nat.pow_eq]
  obtain ⟨places, length⟩ : ∃ places,
      (Digits.ofNat (units code * 10 ^ searchPlaces / unitsPerOne)).length = places + 1 :=
    Nat.exists_eq_succ_of_ne_zero (Digits.length_ofNat_pos _).ne'
  rw [length] at first next ⊢
  rw [Nat.pow_succ] at first
  have first : 10 ^ places * unitsPerOne ≤ units code * 10 ^ searchPlaces :=
    (Nat.le_div_iff_mul_le unitsPerOne_pos).mp (Nat.le_of_mul_le_mul_right first (by decide))
  have next : units code * 10 ^ searchPlaces < 10 ^ (places + 1) * unitsPerOne :=
    (Nat.div_lt_iff_lt_mul unitsPerOne_pos).mp next
  have ones := Decimal.unitsPerOne_cast_pos
  have search : (0 : ℚ) < 10 ^ searchPlaces := by positivity
  have exponent : ((places + 1 : Nat) : Int) - 1 - (searchPlaces : Nat)
      = (places : Int) - (searchPlaces : Nat) := by push_cast; ring
  have after : (places : Int) - (searchPlaces : Nat) + 1
      = ((places + 1 : Nat) : Int) - (searchPlaces : Nat) := by push_cast; ring
  rw [exponent, after, zpow_sub₀ tens, zpow_sub₀ tens, zpow_natCast, zpow_natCast, zpow_natCast,
    magnitudeValue]
  constructor
  · rw [div_le_div_iff₀ search ones]
    exact_mod_cast first
  · rw [div_lt_div_iff₀ ones search]
    exact_mod_cast next

/-! ## Grids -/

theorem gridRatio_pos (code : Nat) (position : Int) : 0 < (gridRatio code position).2 := by
  unfold gridRatio
  split
  · exact Nat.mul_pos unitsPerOne_pos (Nat.pow_pos (by decide))
  · exact unitsPerOne_pos

theorem gridRatio_value (code : Nat) (position : Int) :
    ((gridRatio code position).1 : ℚ) / (gridRatio code position).2
      = magnitudeValue code / (10 : ℚ) ^ position := by
  unfold gridRatio
  split
  · rename_i nonneg
    obtain ⟨places, rfl⟩ := Int.eq_ofNat_of_zero_le nonneg
    rw [Int.toNat_natCast, Nat.pow_eq, zpow_natCast, magnitudeValue, div_div]
    push_cast
    rfl
  · rename_i negative
    obtain ⟨places, same⟩ := Int.eq_ofNat_of_zero_le (by omega : 0 ≤ -position)
    have exponent : position = -(places : ℤ) := by omega
    rw [same, exponent, Int.toNat_natCast, Nat.pow_eq, zpow_neg, zpow_natCast, div_inv_eq_mul,
      magnitudeValue, div_mul_eq_mul_div]
    push_cast
    rfl

/-- The point of a grid that is not greater than a magnitude. -/
def gridFloor (code : Nat) (position : Int) : Nat :=
  (gridRatio code position).1 / (gridRatio code position).2

/-- It is the greatest such point. -/
theorem le_gridFloor_iff {code : Nat} {position : Int} {n : Nat} :
    n ≤ gridFloor code position ↔
      Decimal.value { significand := n, exponent := position } ≤ magnitudeValue code := by
  have step : (0 : ℚ) < (10 : ℚ) ^ position := by positivity
  have denominator : (0 : ℚ) < (gridRatio code position).2 := by
    exact_mod_cast gridRatio_pos code position
  rw [gridFloor, Nat.le_div_iff_mul_le (gridRatio_pos code position), Decimal.value,
    ← le_div_iff₀ step, ← gridRatio_value, le_div_iff₀ denominator]
  exact_mod_cast Iff.rfl

/-- A point that is found encloses the magnitude. -/
theorem significand_of_gridPoint? {tie : Tie} {code : Nat} {position : Int} {decimal : Decimal}
    (found : gridPoint? tie code position = some decimal) :
    decimal.exponent = position ∧ decimal.significand ≤ gridFloor code position + 1 := by
  unfold gridPoint? at found
  dsimp only at found
  split at found
  · split at found
    · obtain rfl := Option.some.inj found
      exact ⟨rfl, le_rfl⟩
    · obtain rfl := Option.some.inj found
      exact ⟨rfl, Nat.le_succ _⟩
  · split at found
    · obtain rfl := Option.some.inj found
      exact ⟨rfl, le_rfl⟩
    · contradiction

/-- A point is found if one of the two that enclose the magnitude reads back. -/
theorem gridPoint?_ne_none {tie : Tie} {code : Nat} {position : Int}
    (reads : Decimal.code { significand := gridFloor code position, exponent := position } = code ∨
      Decimal.code { significand := gridFloor code position + 1, exponent := position } = code) :
    gridPoint? tie code position ≠ none := by
  unfold gridFloor at reads
  unfold gridPoint?
  dsimp only
  split
  · split <;> exact Option.some_ne_none _
  · rename_i lower
    rw [if_pos (reads.resolve_left lower)]
    exact Option.some_ne_none _

/-- **If any point of a grid reads back, then one of the two that enclose the magnitude
does**: the one between that point and the magnitude. -/
theorem gridPoint?_ne_none_of_code {tie : Tie} {code : Nat} {position : Int} {n : Nat}
    (reads : Decimal.code { significand := n, exponent := position } = code) :
    gridPoint? tie code position ≠ none := by
  have step : (0 : ℚ) < (10 : ℚ) ^ position := by positivity
  have ordered : ∀ {first second : Nat}, first ≤ second →
      Decimal.value { significand := first, exponent := position }
        ≤ Decimal.value { significand := second, exponent := position } := by
    intro first second order
    exact mul_le_mul_of_nonneg_right (by exact_mod_cast order) step.le
  apply gridPoint?_ne_none
  rcases Nat.lt_or_ge (gridFloor code position) n with above | below
  · right
    have beyond := mt le_gridFloor_iff.mpr (Nat.not_succ_le_self (gridFloor code position))
    exact Decimal.code_eq_of_between_above reads (not_le.mp beyond).le (ordered above)
  · left
    exact Decimal.code_eq_of_between_below reads (ordered below) (le_gridFloor_iff.mp le_rfl)

namespace Decimal

/-- Without its trailing zeros a significand is no greater. -/
theorem significand_reduce_le (significand : Nat) (exponent : Int) :
    (reduce significand exponent).significand ≤ significand := by
  induction significand, exponent using reduce.induct with
  | case1 significand exponent trailing ih =>
      rw [reduce, dif_pos trailing]
      exact ih.trans (Nat.div_le_self _ _)
  | case2 significand exponent final => rw [reduce, dif_neg final]

/-- The power of ten after the numbers with a count of digits has trailing zeros. -/
theorem significand_reduce_lt {significand digits : Nat} (bounded : significand ≤ 10 ^ (digits + 1))
    (exponent : Int) : (reduce significand exponent).significand < 10 ^ (digits + 1) := by
  rcases Nat.lt_or_eq_of_le bounded with less | power
  · exact (significand_reduce_le _ _).trans_lt less
  · have positive : 0 < 10 ^ digits := Nat.pow_pos (by decide)
    rw [Nat.pow_succ] at power ⊢
    rw [reduce, dif_pos (by omega)]
    have smaller := significand_reduce_le (significand / 10) (exponent + 1)
    omega

/-- A decimal that is closer to a magnitude than its part of 2⁵⁴ reads back. -/
theorem code_eq_of_close {decimal : Decimal} {code : Nat}
    (above : 2 ^ 54 * (decimal.value - magnitudeValue code) < magnitudeValue code)
    (below : 2 ^ 54 * (magnitudeValue code - decimal.value) < magnitudeValue code) :
    decimal.code = code := by
  have ones := unitsPerOne_cast_pos
  apply decimal.isNearest_code.unique
  rw [← mul_lt_mul_iff_of_pos_right ones, mul_assoc, sub_mul, magnitudeValue_mul_unitsPerOne]
    at above below
  exact IsNearest.of_close above below

end Decimal

/-! ## Decimals with few digits -/

/-- A power of ten on a grid. -/
theorem value_power (count : Nat) (position : Int) :
    Decimal.value { significand := 10 ^ count, exponent := position }
      = (10 : ℚ) ^ (position + count) := by
  rw [Decimal.value, zpow_add₀ (by norm_num), zpow_natCast, mul_comm]
  push_cast
  rfl

/-- A decimal with few digits that is not below a decade has no places beyond its grid. -/
theorem position_le_exponent {decimal : Decimal} {digits : Nat} {leading : Int}
    (few : decimal.significand < 10 ^ (digits + 1)) (large : (10 : ℚ) ^ leading ≤ decimal.value) :
    leading - digits ≤ decimal.exponent := by
  have step : (0 : ℚ) < (10 : ℚ) ^ decimal.exponent := by positivity
  have few : (decimal.significand : ℚ) < 10 ^ (digits + 1) := by exact_mod_cast few
  have power : (10 : ℚ) ^ leading < 10 ^ (decimal.exponent + (digits + 1 : Nat)) := by
    calc (10 : ℚ) ^ leading ≤ decimal.value := large
      _ < 10 ^ (digits + 1) * 10 ^ decimal.exponent := mul_lt_mul_of_pos_right few step
      _ = 10 ^ (decimal.exponent + (digits + 1 : Nat)) := by
        rw [zpow_add₀ (by norm_num), zpow_natCast, mul_comm]
  have := (zpow_lt_zpow_iff_right₀ (by norm_num)).mp power
  push_cast at this
  omega

section Few

variable {code : Nat} (nonzero : code ≠ 0)
include nonzero

/-- **A decimal that reads back is not needed off the grid with as many digits.** If it is
outside the decade of the magnitude, the end of the decade stands for it. -/
theorem exists_gridDecimal {decimal : Decimal} {digits : Nat}
    (few : decimal.significand < 10 ^ (digits + 1)) (reads : decimal.code = code) :
    ∃ n : Nat,
      Decimal.code { significand := n, exponent := magnitudeExponent code - digits } = code := by
  obtain ⟨first, next⟩ := magnitudeExponent_spec nonzero
  generalize magnitudeExponent code = leading at first next ⊢
  rcases lt_or_ge decimal.value ((10 : ℚ) ^ leading) with small | large
  · refine ⟨10 ^ digits, Decimal.code_eq_of_between_below reads ?_ ?_⟩
    · rw [value_power, Int.sub_add_cancel]
      exact small.le
    · rw [value_power, Int.sub_add_cancel]
      exact first
  · rcases le_or_gt ((10 : ℚ) ^ (leading + 1)) decimal.value with beyond | inside
    · have exponent : leading - digits + (digits + 1 : Nat) = leading + 1 := by push_cast; ring
      refine ⟨10 ^ (digits + 1), Decimal.code_eq_of_between_above reads ?_ ?_⟩
      · rw [value_power, exponent]
        exact next.le
      · rw [value_power, exponent]
        exact beyond
    · have position := position_le_exponent few large
      obtain ⟨n, same⟩ := Decimal.exists_value_of_finer position
      exact ⟨n, (Decimal.code_congr same).trans reads⟩

/-- **Seventeen digits suffice**: the nearer of the two points that enclose the magnitude is
away from it by half a step at most. -/
theorem exists_seventeenDigits :
    ∃ n : Nat,
      Decimal.code { significand := n, exponent := magnitudeExponent code - 16 } = code := by
  have positive := magnitudeValue_pos nonzero
  have first := (magnitudeExponent_spec nonzero).1
  have lower := (@le_gridFloor_iff code (magnitudeExponent code - 16) _).mp le_rfl
  have upper := mt (@le_gridFloor_iff code (magnitudeExponent code - 16) _).mpr
    (Nat.not_succ_le_self _)
  generalize gridFloor code (magnitudeExponent code - 16) = floor at lower upper
  rw [not_le] at upper
  unfold Decimal.value at lower upper
  rw [← Int.sub_add_cancel (magnitudeExponent code) 16, zpow_add₀ (by norm_num)] at first
  generalize step_eq : (10 : ℚ) ^ (magnitudeExponent code - 16) = step at lower upper first
  push_cast at upper
  rcases le_or_gt (2 * (magnitudeValue code - floor * step)) step with near | far
  · refine ⟨floor, Decimal.code_eq_of_close ?_ ?_⟩
    · rw [Decimal.value, step_eq]
      linarith
    · rw [Decimal.value, step_eq]
      linarith
  · refine ⟨floor + 1, Decimal.code_eq_of_close ?_ ?_⟩
    · rw [Decimal.value, step_eq]
      push_cast
      linarith
    · rw [Decimal.value, step_eq]
      push_cast
      linarith

/-- A point that reads back bounds the digits of the shortest decimal. -/
theorem significand_lt_of_gridDecimal (tie : Tie) {digits n : Nat} (inside : digits < enoughDigits)
    (reads :
      Decimal.code { significand := n, exponent := magnitudeExponent code - digits } = code) :
    (shortestDecimal tie code).significand < 10 ^ (digits + 1) := by
  have next := (magnitudeExponent_spec nonzero).2
  obtain ⟨dropped, decimal, atMost, point, shortest⟩ :=
    exists_gridPoint_of_search tie inside (gridPoint?_ne_none_of_code reads)
  obtain ⟨_, enclosing⟩ := significand_of_gridPoint? point
  generalize magnitudeExponent code = leading at next enclosing
  have below : gridFloor code (leading - dropped) < 10 ^ (dropped + 1) := by
    have sum : leading - dropped + (dropped + 1 : Nat) = leading + 1 := by push_cast; ring
    rw [← Nat.not_le, le_gridFloor_iff, value_power, not_le, sum]
    exact next
  rw [shortest]
  exact (Decimal.significand_reduce_lt (enclosing.trans below) _).trans_le
    (Nat.pow_le_pow_right (by decide) (Nat.succ_le_succ atMost))

/-- **No decimal that reads back has fewer digits than the shortest decimal.** -/
theorem significand_shortestDecimal_lt (tie : Tie) {decimal : Decimal} {digits : Nat}
    (few : decimal.significand < 10 ^ (digits + 1)) (reads : decimal.code = code) :
    (shortestDecimal tie code).significand < 10 ^ (digits + 1) := by
  rcases Nat.lt_or_ge digits enoughDigits with inside | many
  · obtain ⟨n, point⟩ := exists_gridDecimal nonzero few reads
    exact significand_lt_of_gridDecimal nonzero tie inside point
  · obtain ⟨n, point⟩ := exists_seventeenDigits nonzero
    have bounded : (shortestDecimal tie code).significand < 10 ^ (16 + 1) :=
      significand_lt_of_gridDecimal nonzero tie (by decide) point
    exact bounded.trans_le (Nat.pow_le_pow_right (by decide) (Nat.le_succ_of_le many))

end Few

end PocketCalculator
