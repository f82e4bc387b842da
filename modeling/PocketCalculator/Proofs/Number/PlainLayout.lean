import PocketCalculator.Display.ResultText
import PocketCalculator.Proofs.Number.Decimals

/-!
# Numbers that are written out

The numeral that a layout gives to a decimal without a power of ten denotes that
decimal (`Layout.magnitude_plain`).  The display writes a number out from the code
of one millionth on and below the code of 10²¹ (`ShownPlain`): the shortest decimal
of a code in this range has its first digit in the range of the layout, also at the
two ends (`leadingExponent_of_range`).

**A number that is written out reads back** (`numeral_of_range`): without its
sign, the numeral is whole digits and fraction digits that denote the magnitude.
-/

set_option autoImplicit false

namespace PocketCalculator

/-! ## Numerals -/

namespace Numeral

/-- The rational number that a numeral denotes without its sign. -/
def magnitude (numeral : Numeral) : ℚ := numeral.ratio.1 / numeral.ratio.2

theorem ratio_pos (numeral : Numeral) : 0 < numeral.ratio.2 := by
  have places : 0 < Nat.pow 10 numeral.fraction.length := Nat.pow_pos (by decide)
  unfold ratio
  cases numeral.exponent with
  | none => exact places
  | some exponent =>
      dsimp only
      split
      · exact Nat.mul_pos places (Nat.pow_pos (by decide))
      · exact places

/-- A numeral that denotes what a decimal does is read as the number with its code. -/
theorem toBinary64_of_magnitude {numeral : Numeral} {decimal : Decimal} {code : Fin finiteCodes}
    (same : numeral.magnitude = decimal.value) (reads : decimal.code = code) :
    numeral.toBinary64 = .finite numeral.negative code := by
  have read : numeral.toBinary64
      = .nearest numeral.negative (numeral.ratio.1 * unitsPerOne) numeral.ratio.2 := rfl
  rw [read]
  apply Binary64.nearest_eq_finite
  rw [← reads, Decimal.code]
  apply nearestCode_congr numeral.ratio_pos decimal.ratio_pos
  rw [Nat.cast_mul, Nat.cast_mul, mul_div_right_comm, mul_div_right_comm, Decimal.ratio_value,
    ← same, magnitude]

end Numeral

/-! ## Decimals that are written out -/

namespace Layout

/-- A decimal that is written out has whole digits and fraction digits that do not
depend on its sign. -/
theorem exists_plainDigits (layout : Layout) (decimal : Decimal) :
    ∃ whole fraction : Digits, whole ≠ [] ∧
      ∀ negative, layout.plain negative decimal = { negative, whole, fraction } := by
  have nonempty : decimal.digits ≠ [] := Digits.ofNat_ne_nil _
  unfold plain
  dsimp only
  split
  · exact ⟨_, _, List.append_ne_nil_of_left_ne_nil nonempty _, fun _ => rfl⟩
  · split
    · refine ⟨_, _, ?_, fun _ => rfl⟩
      intro empty
      rcases List.take_eq_nil_iff.mp empty with zero | noDigits
      · exact absurd zero (Nat.succ_ne_zero _)
      · exact nonempty noDigits
    · exact ⟨_, _, List.cons_ne_nil _ _, fun _ => rfl⟩

/-- Without a power of ten the digits on both sides of the point are one number. -/
theorem magnitude_plainDigits (negative : Bool) (whole fraction : Digits) :
    Numeral.magnitude { negative, whole, fraction }
      = Digits.value (whole ++ fraction) / (10 : ℚ) ^ fraction.length := by
  unfold Numeral.magnitude Numeral.ratio
  simp

/-- **A decimal that is written out keeps its value.** -/
theorem magnitude_plain (layout : Layout) (negative : Bool) (decimal : Decimal) :
    (layout.plain negative decimal).magnitude = decimal.value := by
  have significand : Digits.value decimal.digits = decimal.significand := Digits.value_ofNat _
  have tens : (10 : ℚ) ≠ 0 := by norm_num
  unfold plain
  dsimp only
  split
  · rename_i nonneg
    obtain ⟨places, same⟩ := Int.eq_ofNat_of_zero_le nonneg
    have noFraction : Digits.value layout.wholeFraction = 0 := by
      unfold wholeFraction
      split <;> rfl
    rw [magnitude_plainDigits, Digits.value_append, Digits.value_append, noFraction, significand,
      Digits.value_replicate_zero, Decimal.value, same, Int.toNat_natCast, List.length_replicate,
      Nat.add_zero, Nat.add_zero, zpow_natCast]
    push_cast
    field_simp
  · rename_i negativeExponent
    obtain ⟨places, same⟩ := Int.eq_ofNat_of_zero_le (by omega : 0 ≤ -decimal.exponent)
    have exponent : decimal.exponent = -(places : ℤ) := by omega
    have value : decimal.value = decimal.significand / (10 : ℚ) ^ places := by
      rw [Decimal.value, exponent, zpow_neg, zpow_natCast, div_eq_mul_inv]
    split
    · rename_i inside
      rw [magnitude_plainDigits, List.take_append_drop, significand, value]
      have length : (decimal.digits.drop (decimal.leadingExponent.toNat + 1)).length = places := by
        rw [List.length_drop]
        unfold Decimal.leadingExponent at inside ⊢
        omega
      rw [length]
    · rename_i outside
      have length : (List.replicate (-decimal.leadingExponent - 1).toNat 0
          ++ decimal.digits).length = places := by
        rw [List.length_append, List.length_replicate]
        unfold Decimal.leadingExponent at outside ⊢
        omega
      have zero : Digits.value [0] = 0 := rfl
      rw [magnitude_plainDigits, length, Digits.value_append, Digits.value_append, significand,
        Digits.value_replicate_zero, zero, Nat.zero_mul, Nat.zero_mul, Nat.zero_add, Nat.zero_add,
        value]

end Layout

/-! ## The range that is written out -/

namespace Decimal

/-- The first digit of a decimal that is not zero is not zero. -/
theorem pow_leadingExponent_le {decimal : Decimal} (nonzero : decimal.significand ≠ 0) :
    (10 : ℚ) ^ decimal.leadingExponent ≤ decimal.value := by
  have tens : (10 : ℚ) ≠ 0 := by norm_num
  have digits : (10 : ℚ) ^ decimal.digits.length ≤ decimal.significand * 10 := by
    exact_mod_cast Digits.pow_length_le (Nat.pos_iff_ne_zero.mpr nonzero)
  have power : (10 : ℚ) ^ decimal.leadingExponent * 10
      = (10 : ℚ) ^ decimal.exponent * 10 ^ decimal.digits.length := by
    rw [← zpow_natCast, ← zpow_add₀ tens, ← zpow_add_one₀ tens, leadingExponent,
      Int.sub_add_cancel]
  have scale : (0 : ℚ) < (10 : ℚ) ^ decimal.exponent := by positivity
  have bound := mul_le_mul_of_nonneg_left digits scale.le
  rw [← power] at bound
  unfold value
  linarith

theorem value_lt_pow (decimal : Decimal) :
    decimal.value < (10 : ℚ) ^ (decimal.leadingExponent + 1) := by
  have tens : (10 : ℚ) ≠ 0 := by norm_num
  have digits : (decimal.significand : ℚ) < 10 ^ decimal.digits.length := by
    exact_mod_cast Digits.lt_pow_length decimal.significand
  have scale : (0 : ℚ) < (10 : ℚ) ^ decimal.exponent := by positivity
  rw [leadingExponent, Int.sub_add_cancel, zpow_add₀ tens, zpow_natCast, value, mul_comm]
  exact mul_lt_mul_of_pos_left digits scale

end Decimal

/-- The code from which on the display writes a number out. -/
def plainFloor : Nat := Decimal.code { significand := 1, exponent := -6 }

/-- The code from which on the display writes a number with a power of ten. -/
def plainCeiling : Nat := Decimal.code { significand := 1, exponent := 21 }

/-- The ends of the range are the layout's powers of ten. -/
theorem leadingExponent_plainFloor :
    (shortestDecimal displayLayout.tie plainFloor).leadingExponent = displayLayout.plainFrom := by
  decide +kernel

theorem plainFloor_pos : 0 < plainFloor := by decide +kernel

theorem value_one (exponent : Int) :
    Decimal.value { significand := 1, exponent } = (10 : ℚ) ^ exponent := by
  rw [Decimal.value, Nat.cast_one, one_mul]

/-- A code that is not zero is written with digits that are not all zero. -/
theorem significand_shortestDecimal_ne_zero {tie : Tie} {code : Nat} (nonzero : code ≠ 0) :
    (shortestDecimal tie code).significand ≠ 0 := by
  intro zero
  have reads := code_shortestDecimal tie code
  rw [Decimal.code_eq_zero zero] at reads
  exact nonzero reads.symm

/-- The display writes out the codes of its range. -/
theorem leadingExponent_of_range {code : Nat} (low : plainFloor ≤ code)
    (high : code < plainCeiling) :
    displayLayout.plainFrom ≤ (shortestDecimal displayLayout.tie code).leadingExponent ∧
      (shortestDecimal displayLayout.tie code).leadingExponent < displayLayout.plainBelow := by
  have reads := code_shortestDecimal displayLayout.tie code
  have nonzero := plainFloor_pos.trans_le low
  constructor
  · by_contra outside
    have below : (shortestDecimal displayLayout.tie code).value
        ≤ Decimal.value { significand := 1, exponent := -6 } := by
      rw [value_one]
      apply (Decimal.value_lt_pow _).le.trans
      apply zpow_le_zpow_right₀ (by norm_num)
      have : displayLayout.plainFrom = -6 := rfl
      omega
    have atFloor : code = plainFloor := by
      apply Nat.le_antisymm _ low
      rw [← reads]
      exact Decimal.code_le_code below
    rw [atFloor] at outside
    exact outside leadingExponent_plainFloor.ge
  · by_contra outside
    have above : Decimal.value { significand := 1, exponent := 21 }
        ≤ (shortestDecimal displayLayout.tie code).value := by
      rw [value_one]
      refine le_trans ?_
        (Decimal.pow_leadingExponent_le (significand_shortestDecimal_ne_zero nonzero.ne'))
      apply zpow_le_zpow_right₀ (by norm_num)
      have : displayLayout.plainBelow = 21 := rfl
      omega
    have atLeast := Decimal.code_le_code above
    rw [reads] at atLeast
    exact absurd high (Nat.not_lt.mpr atLeast)

/-- A number that the display writes out: a zero, or a finite number from one
millionth on and below 10²¹, whatever its sign.  Codes are ordered as magnitudes. -/
inductive ShownPlain : Binary64 → Prop where
  | zero (negative : Bool) : ShownPlain (.zero negative)
  | range (negative : Bool) {code : Fin finiteCodes} (low : plainFloor ≤ code.val)
      (high : code.val < plainCeiling) : ShownPlain (.finite negative code)

theorem shownPlain_finite {negative : Bool} {code : Fin finiteCodes} :
    ShownPlain (.finite negative code) ↔
      code.val = 0 ∨ plainFloor ≤ code.val ∧ code.val < plainCeiling := by
  constructor
  · intro plain
    cases plain with
    | zero => exact .inl rfl
    | range negative low high => exact .inr ⟨low, high⟩
  · rintro (zero | ⟨low, high⟩)
    · have isZero : code = ⟨0, by decide⟩ := Fin.ext zero
      rw [isZero]
      exact .zero negative
    · exact .range negative low high

/-- A finite number from one millionth on and below 10²¹ is written out. -/
theorem shownPlain_of_magnitude (negative : Bool) {code : Fin finiteCodes}
    (low : (10 : ℚ) ^ (-6 : ℤ) * unitsPerOne ≤ units code)
    (high : (units code : ℚ) < 10 ^ 21 * unitsPerOne) : ShownPlain (.finite negative code) := by
  apply ShownPlain.range
  · have floor := Decimal.isNearest_code { significand := 1, exponent := -6 }
    rw [value_one] at floor
    exact floor.mono (isNearest_units code) low
  · -- The upper end is a magnitude itself, so it is compared without rounding.
    have ceiling : units plainCeiling = 10 ^ 21 * unitsPerOne := by decide +kernel
    apply units_strictMono.lt_iff_lt.mp
    rw [ceiling]
    exact_mod_cast high

instance decidableShownPlain : DecidablePred ShownPlain
  | .nan => .isFalse nofun
  | .infinite _ => .isFalse nofun
  | .finite _ _ => decidable_of_iff _ shownPlain_finite.symm

/-- **A number that is written out reads back.** Its numeral has whole digits and
fraction digits, and these are read as the number without its sign. -/
theorem numeral_of_range {code : Fin finiteCodes} (negative : Bool) (low : plainFloor ≤ code.val)
    (high : code.val < plainCeiling) :
    ∃ whole fraction : Digits, whole ≠ [] ∧
      displayLayout.numeral negative code = { negative, whole, fraction } ∧
      Numeral.toBinary64 { whole, fraction } = .finite false code := by
  obtain ⟨whole, fraction, nonempty, digits⟩ :=
    displayLayout.exists_plainDigits (shortestDecimal displayLayout.tie code)
  refine ⟨whole, fraction, nonempty, ?_, ?_⟩
  · rw [Layout.numeral, if_neg (plainFloor_pos.trans_le low).ne', Layout.arrange,
      if_pos (leadingExponent_of_range low high), digits]
  · rw [← digits false]
    have read := Numeral.toBinary64_of_magnitude
      (displayLayout.magnitude_plain false (shortestDecimal displayLayout.tie code))
      (code_shortestDecimal displayLayout.tie code)
    rw [read, digits]

end PocketCalculator
