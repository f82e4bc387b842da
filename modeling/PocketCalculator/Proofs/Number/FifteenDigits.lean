import PocketCalculator.Proofs.Number.CanonicalText

/-!
# Fifteen digits

From 2⁵² units on the spacing of magnitudes is at most their part of 2⁵², and a decimal
with fifteen digits or fewer is less than 10¹⁵ of its own steps.  So if such a decimal is
read as a number, no other one is: two decimals are at least one step of the finer one
apart (`Decimal.value_eq_of_fifteenDigits`).

The shortest decimal of the number has no more digits, so it is the same
(`value_shortestDecimal_of_fifteenDigits`).  **A numeral with fifteen significant
digits or fewer that is written out, in the range in which the display does, is the
numeral of the number that it is read as** (`exists_numeral_of_fifteenDigits`), since a
plain numeral is determined by the number that it denotes
(`Numeral.IsPlain.eq_of_magnitude`).
-/

set_option autoImplicit false

namespace PocketCalculator

/-! ## Decimals that are read alike -/

theorem exists_places {n : Nat} (large : 2 ^ 52 ≤ n) :
    ∃ places, 2 ^ (52 + places) ≤ n ∧ n < 2 ^ (53 + places) := by
  have positive : n ≠ 0 := (lt_of_lt_of_le (Nat.two_pow_pos 52) large).ne'
  obtain ⟨places, bits⟩ := Nat.exists_eq_add_of_le ((Nat.le_log2 positive).mpr large)
  refine ⟨places, ?_, ?_⟩
  · rw [← bits]
    exact Nat.log2_self_le positive
  · have next := Nat.lt_log2_self (n := n)
    rw [bits] at next
    rw [Nat.add_right_comm 52 1 places]
    exact next

section Steps

variable {code places : Nat} (large : 2 ^ (52 + places) ≤ units code)
  (small : units code < 2 ^ (53 + places))
include large small

/-- A step is longer than the spacing if fewer than 10¹⁵ steps are rounded to a magnitude. -/
theorem spacing_lt_step {step : ℚ} (positive : 0 < step) {count : Nat} (few : count < 10 ^ 15)
    (nearest : IsNearest (count * step) code) : 2 ^ places < step := by
  have nonneg : (0 : ℚ) ≤ count * step := mul_nonneg (Nat.cast_nonneg _) positive.le
  have rounded := nearest.sub_spacing_le small nonneg
  have large : (2 : ℚ) ^ 52 * 2 ^ places ≤ units code := by
    rw [← pow_add]
    exact_mod_cast large
  have few : (count : ℚ) < 10 ^ 15 := by exact_mod_cast few
  have bounded := mul_lt_mul_of_pos_right few positive
  have spacing : (0 : ℚ) < 2 ^ places := by positivity
  linarith

/-- If fewer than 10¹⁵ steps are rounded to a magnitude, no other number of steps is. -/
theorem steps_eq_of_isNearest {step : ℚ} (positive : 0 < step) {first second : Nat}
    (few : first < 10 ^ 15) (nearFirst : IsNearest (first * step) code)
    (nearSecond : IsNearest (second * step) code) : first = second := by
  have narrow := spacing_lt_step large small positive few nearFirst
  have apart : ∀ {less more : Nat}, IsNearest (less * step) code → IsNearest (more * step) code →
      more ≤ less := by
    intro less more nearLess nearMore
    by_contra ordered
    have nonneg : (0 : ℚ) ≤ less * step := mul_nonneg (Nat.cast_nonneg _) positive.le
    have close := nearMore.le_add_of_same small nearLess nonneg
    have next : (less + 1 : ℚ) ≤ more := by exact_mod_cast Nat.lt_of_not_le ordered
    have steps := mul_le_mul_of_nonneg_right next positive.le
    linarith
  exact Nat.le_antisymm (apart nearSecond nearFirst) (apart nearFirst nearSecond)

end Steps

/-- **Decimals with fifteen digits or fewer that are read as the same number are equal**,
unless that number is subnormal. -/
theorem Decimal.value_eq_of_fifteenDigits {first second : Decimal}
    (fewFirst : first.significand < 10 ^ 15) (fewSecond : second.significand < 10 ^ 15)
    (same : first.code = second.code) (normal : 2 ^ 52 ≤ units first.code) :
    first.value = second.value := by
  wlog finer : first.exponent ≤ second.exponent with other
  · rw [same] at normal
    exact (other fewSecond fewFirst same.symm normal (by omega)).symm
  obtain ⟨places, large, small⟩ := exists_places normal
  -- Both decimals are multiples of the step of the finer one.
  obtain ⟨n, multiple⟩ := exists_value_of_finer finer
  have ones := unitsPerOne_cast_pos
  have step : (0 : ℚ) < (10 : ℚ) ^ first.exponent * unitsPerOne := by positivity
  have nearFirst := first.isNearest_code
  have nearSecond := second.isNearest_code
  rw [value, mul_assoc] at nearFirst
  rw [← same, ← multiple, value, mul_assoc] at nearSecond
  rw [← multiple, value, value,
    ← steps_eq_of_isNearest large small step fewFirst nearFirst nearSecond]

/-- **The shortest decimal of a number is the decimal with fifteen digits or fewer that was
read as it.** -/
theorem value_shortestDecimal_of_fifteenDigits (tie : Tie) {decimal : Decimal} {code : Nat}
    (few : decimal.significand < 10 ^ 15) (reads : decimal.code = code)
    (normal : 2 ^ 52 ≤ units code) : (shortestDecimal tie code).value = decimal.value := by
  have nonzero : code ≠ 0 := by
    rintro rfl
    exact absurd normal (by decide)
  have shortest := code_shortestDecimal tie code
  apply Decimal.value_eq_of_fifteenDigits _ few (shortest.trans reads.symm)
  · rw [shortest]
    exact normal
  · exact significand_shortestDecimal_lt nonzero tie few reads

/-! ## Plain numerals -/

namespace Numeral.IsPlain

variable {first second : Numeral}

theorem magnitude_eq {numeral : Numeral} (plain : numeral.IsPlain) :
    numeral.magnitude = Digits.value (numeral.whole ++ numeral.fraction)
      / (10 : ℚ) ^ numeral.fraction.length := by
  have power : numeral.power = 0 := by
    rw [Numeral.power, plain.noExponent]
    rfl
  rw [Numeral.magnitude_eq_mul_power, Layout.magnitude_plainDigits, power, zpow_zero, mul_one]

/-- A plain numeral has no more fraction digits than it needs. -/
theorem length_fraction_le (plainFirst : first.IsPlain) (plainSecond : second.IsPlain)
    (same : first.magnitude = second.magnitude) :
    first.fraction.length ≤ second.fraction.length := by
  by_contra more
  obtain ⟨extra, length⟩ := Nat.exists_eq_add_of_lt (Nat.lt_of_not_le more)
  rcases List.eq_nil_or_concat first.fraction with empty | ⟨front, last, fraction⟩
  · rw [empty] at more
    exact more (Nat.zero_le _)
  rw [List.concat_eq_append] at fraction
  -- The last fraction digit would be zero.
  have scaled : Digits.value (first.whole ++ first.fraction)
      = Digits.value (second.whole ++ second.fraction) * 10 ^ (extra + 1) := by
    have power : (0 : ℚ) < 10 ^ second.fraction.length := by positivity
    rw [plainFirst.magnitude_eq, plainSecond.magnitude_eq, length, Nat.add_assoc, Nat.add_comm,
      pow_add, ← div_div, div_left_inj' power.ne', div_eq_iff (by positivity)] at same
    exact_mod_cast same
  rw [fraction, ← List.append_assoc, Digits.value_append_singleton, Nat.pow_succ,
    ← Nat.mul_assoc] at scaled
  have inside := last.isLt
  have zero : last = 0 := Fin.ext (by omega : last.val = 0)
  apply plainFirst.fraction
  rw [fraction, List.getLast?_concat, zero]

/-- **A plain numeral is determined by its sign and the number that it denotes.** -/
theorem eq_of_magnitude (plainFirst : first.IsPlain) (plainSecond : second.IsPlain)
    (sign : first.negative = second.negative) (same : first.magnitude = second.magnitude) :
    first = second := by
  have length := Nat.le_antisymm (length_fraction_le plainFirst plainSecond same)
    (length_fraction_le plainSecond plainFirst same.symm)
  have digits : Digits.value (first.whole ++ first.fraction)
      = Digits.value (second.whole ++ second.fraction) := by
    rw [plainFirst.magnitude_eq, plainSecond.magnitude_eq, length] at same
    have power : (0 : ℚ) < 10 ^ second.fraction.length := by positivity
    exact_mod_cast (div_left_inj' power.ne').mp same
  have whole : first.whole = second.whole := by
    rw [← Digits.ofNat_value plainFirst.nonempty plainFirst.noLeadingZero,
      ← Digits.ofNat_value plainSecond.nonempty plainSecond.noLeadingZero,
      ← Digits.value_append_div first.whole first.fraction, digits, length,
      Digits.value_append_div]
  have fraction : first.fraction = second.fraction := by
    apply Digits.eq_of_value_eq length
    rw [← Digits.value_append_mod first.whole, digits, length, Digits.value_append_mod]
  have exponent := plainFirst.noExponent.trans plainSecond.noExponent.symm
  cases first
  cases second
  exact (Numeral.mk.injEq ..).mpr ⟨sign, whole, fraction, exponent⟩

end Numeral.IsPlain

/-! ## Numerals with fifteen digits -/

/-- From one millionth on numbers are not subnormal. -/
theorem two_pow_le_units_of_plainFloor_le {code : Nat} (low : plainFloor ≤ code) :
    2 ^ 52 ≤ units code := by
  have floor : 2 ^ 52 ≤ units plainFloor := by decide +kernel
  exact floor.trans (units_strictMono.monotone low)

/-- Below 10²¹ a decimal with fifteen digits or fewer is not rounded up to it. -/
theorem code_lt_plainCeiling_of_fifteenDigits {decimal : Decimal}
    (few : decimal.significand < 10 ^ 15) (low : plainFloor ≤ decimal.code)
    (high : decimal.value < Decimal.value { significand := 1, exponent := 21 }) :
    decimal.code < plainCeiling := by
  apply Nat.lt_of_le_of_ne (Decimal.code_le_code high.le)
  intro atCeiling
  have normal := two_pow_le_units_of_plainFloor_le low
  exact high.ne (Decimal.value_eq_of_fifteenDigits few (by decide) atCeiling normal)

/-- **A numeral with fifteen significant digits or fewer is shown as it was read**, if it is
written out and denotes a number in the range that the display writes out. -/
theorem exists_numeral_of_fifteenDigits {numeral : Numeral} (plain : numeral.IsPlain)
    (unsigned : numeral.negative = false) (few : numeral.significantDigits ≤ 15)
    (low : (10 : ℚ) ^ (-6 : ℤ) ≤ numeral.magnitude) (high : numeral.magnitude < 10 ^ 21) :
    ∃ code : Fin finiteCodes, ShownPlain (.finite false code) ∧
      displayLayout.numeral false code = numeral := by
  obtain ⟨decimal, same, digits⟩ := numeral.exists_significantDecimal
  have fewDigits : decimal.significand < 10 ^ 15 :=
    digits.trans_le (Nat.pow_le_pow_right (by decide) few)
  have floor : plainFloor ≤ decimal.code := by
    apply Decimal.code_le_code
    rw [value_one, same]
    exact low
  have ceiling : decimal.code < plainCeiling := by
    apply code_lt_plainCeiling_of_fifteenDigits fewDigits floor
    rw [value_one, same]
    exact_mod_cast high
  obtain ⟨code, reads⟩ : ∃ code : Fin finiteCodes, decimal.code = code := by
    have finite : plainCeiling < finiteCodes := by decide +kernel
    exact ⟨⟨decimal.code, ceiling.trans finite⟩, rfl⟩
  rw [reads] at floor ceiling
  have nonzero : code.val ≠ 0 := (plainFloor_pos.trans_le floor).ne'
  have normal := two_pow_le_units_of_plainFloor_le floor
  have shown : ShownPlain (.finite false code) := .range false floor ceiling
  have canonical := isCanonical_numeral false code
  refine ⟨code, shown, ?_⟩
  apply Numeral.IsPlain.eq_of_magnitude (canonical.plain shown) plain
  · rw [canonical.sign, unsigned, Bool.false_and]
  · rw [Layout.numeral, if_neg nonzero, Layout.magnitude_arrange,
      value_shortestDecimal_of_fifteenDigits displayLayout.tie fewDigits reads normal, same]

end PocketCalculator
