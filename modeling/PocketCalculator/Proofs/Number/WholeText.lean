import PocketCalculator.Display.ResultText
import PocketCalculator.Proofs.Number.Whole

/-!
# The text of whole numbers

The grids that the search for the shortest decimal tries first have steps that are
whole numbers.  Below 2⁵³ two whole numbers never have the same code, so such a grid
has a point that reads back only if the number itself lies on it
(`value_of_gridPoint?`), and the grid of ones has.  The search therefore ends with
the number itself and without a digit after the point.

**A whole number is shown as its decimal spelling** (`resultText_of_isWhole`).
-/

set_option autoImplicit false

namespace PocketCalculator

/-! ## Decimal spellings -/

namespace Digits

theorem toChars_ofNat (n : Nat) : toChars (ofNat n) = Nat.toDigits 10 n := by
  have digitChar : ∀ digit : Digit, Digit.toChar digit = Nat.digitChar digit.val := by decide
  induction n using Nat.strongRecOn with
  | _ n ih =>
      rw [ofNat]
      split
      · rename_i small
        rw [Nat.toDigits_of_lt_base small]
        exact congrArg (fun c => [c]) (digitChar ⟨n, small⟩)
      · rename_i large
        rw [Nat.toDigits_of_base_le (by decide) (Nat.le_of_not_lt large), toChars, List.map_append]
        have front := ih (n / 10) (by omega)
        rw [toChars] at front
        rw [front]
        exact congrArg (fun c => Nat.toDigits 10 (n / 10) ++ [c]) (digitChar _)

end Digits

/-- A whole number below the bound has at most sixteen digits. -/
theorem length_digits_of_whole {n : Nat} (positive : 0 < n) (small : n < wholeBound) :
    (Digits.ofNat n).length ≤ 16 :=
  Digits.length_ofNat_le positive (small.trans (by decide))

theorem decimalText_eq_toString (n : Nat) : decimalText n = toString n := by
  rw [decimalText, Digits.toChars_ofNat]
  rfl

/-- A minus sign is written before the magnitude of a negative integer alone. -/
theorem toString_signed (negative : Bool) {magnitude : Nat} (positive : 0 < magnitude) :
    toString (Binary64.signed negative magnitude)
      = (if negative then "-" else "") ++ toString magnitude := by
  obtain ⟨magnitude, rfl⟩ := Nat.exists_eq_succ_of_ne_zero positive.ne'
  cases negative with
  | false =>
      rw [if_neg Bool.false_ne_true, String.empty_append]
      rfl
  | true => rfl

/-! ## The search for whole numbers -/

/-- A decimal with a power of ten that is no fraction is a whole number. -/
theorem value_of_natCast_exponent (significand places : Nat) :
    Decimal.value { significand, exponent := (places : Int) }
      = (significand * 10 ^ places : Nat) := by
  rw [Decimal.value, zpow_natCast]
  push_cast
  rfl

section Whole

variable {code magnitude : Nat} (whole : units code = magnitude * unitsPerOne)
include whole

/-- The first grid that is searched has the place of the first digit. -/
theorem magnitudeExponent_of_whole (positive : 0 < magnitude) :
    magnitudeExponent code = (Digits.ofNat magnitude).length - 1 := by
  have scaled : units code * 10 ^ searchPlaces / unitsPerOne = magnitude * 10 ^ searchPlaces := by
    rw [whole, Nat.mul_right_comm, Nat.mul_div_cancel _ unitsPerOne_pos]
  rw [magnitudeExponent, Nat.pow_eq, scaled, Digits.ofNat_mul_pow positive, List.length_append,
    List.length_replicate]
  omega

/-- The points of a whole grid on both sides of a whole number. -/
theorem gridRatio_of_whole (places : Nat) :
    gridRatio code places = (magnitude * unitsPerOne, unitsPerOne * 10 ^ places) := by
  rw [gridRatio, if_pos (Int.natCast_nonneg places), whole, Int.toNat_natCast, Nat.pow_eq]

variable (small : magnitude < wholeBound)
include small

/-- Of the whole numbers below the bound only the number itself reads back. -/
theorem value_eq_of_code_eq {decimal : Decimal} {n : Nat} (value : decimal.value = n)
    (reads : decimal.code = code) (le : n ≤ magnitude) : n = magnitude := by
  have exact := units_code_of_whole (le.trans small.le) value
  rw [reads, whole] at exact
  exact (Nat.eq_of_mul_eq_mul_right unitsPerOne_pos exact).symm

/-- No greater whole number reads back. -/
theorem code_ne_of_lt {decimal : Decimal} {n : Nat} (value : decimal.value = n)
    (greater : magnitude < n) : decimal.code ≠ code := by
  have next : Decimal.value { significand := magnitude + 1, exponent := 0 }
      = (magnitude + 1 : Nat) := by
    rw [Decimal.value, zpow_zero, mul_one]
  have exact := units_code_of_whole (Nat.succ_le_of_lt small) next
  have beyond : code < Decimal.code { significand := magnitude + 1, exponent := 0 } := by
    apply units_strictMono.lt_iff_lt.mp
    rw [exact, whole]
    exact Nat.mul_lt_mul_of_pos_right (Nat.lt_succ_self _) unitsPerOne_pos
  have ordered : Decimal.value { significand := magnitude + 1, exponent := 0 } ≤ decimal.value := by
    rw [next, value]
    exact_mod_cast greater
  exact (beyond.trans_le (Decimal.code_le_code ordered)).ne'

/-- **A whole grid has a point that reads back only if the number lies on it.** -/
theorem value_of_gridPoint? {tie : Tie} {places : Nat} {decimal : Decimal}
    (found : gridPoint? tie code places = some decimal) :
    decimal.value = magnitude ∧ decimal.exponent = places := by
  unfold gridPoint? at found
  rw [gridRatio_of_whole whole] at found
  dsimp only at found
  have step : 0 < 10 ^ places := Nat.pow_pos (by decide)
  have below : magnitude * unitsPerOne / (unitsPerOne * 10 ^ places) = magnitude / 10 ^ places := by
    rw [Nat.mul_comm, Nat.mul_div_mul_left _ _ unitsPerOne_pos]
  rw [below] at found
  have upper := code_ne_of_lt whole small
    (value_of_natCast_exponent (magnitude / 10 ^ places + 1) places)
    (Nat.lt_mul_of_div_lt (Nat.lt_succ_self _) step)
  split at found
  · rename_i lower
    rw [if_neg fun both => upper both.1] at found
    have value := value_of_natCast_exponent (magnitude / 10 ^ places) places
    have same := value_eq_of_code_eq whole small value lower (Nat.div_mul_le_self _ _)
    obtain rfl := Option.some.inj found
    rw [value, same]
    exact ⟨rfl, rfl⟩
  · contradiction

/-- The number lies on the grid of ones. -/
theorem gridPoint?_ones (tie : Tie) : gridPoint? tie code (0 : Nat) ≠ none := by
  unfold gridPoint?
  rw [gridRatio_of_whole whole]
  dsimp only
  rw [Nat.pow_zero, Nat.mul_one, Nat.mul_div_cancel _ unitsPerOne_pos]
  have lower : Decimal.code { significand := magnitude, exponent := (0 : Nat) } = code := by
    apply units_strictMono.injective
    have value := value_of_natCast_exponent magnitude 0
    rw [Nat.pow_zero, Nat.mul_one] at value
    rw [units_code_of_whole small.le value, whole]
  rw [if_pos lower]
  split <;> exact Option.some_ne_none _

/-- **The shortest decimal of a whole number is that number, without places after the
point.** -/
theorem shortestDecimal_of_whole (positive : 0 < magnitude) (tie : Tie) :
    (shortestDecimal tie code).value = magnitude ∧ 0 ≤ (shortestDecimal tie code).exponent := by
  have digits := Digits.length_ofNat_pos magnitude
  have fewDigits := length_digits_of_whole positive small
  have ones : magnitudeExponent code - ((Digits.ofNat magnitude).length - 1 : Nat) = (0 : Nat) := by
    rw [magnitudeExponent_of_whole whole positive]
    omega
  have known : gridPoint? tie code
      (magnitudeExponent code - ((Digits.ofNat magnitude).length - 1 : Nat)) ≠ none := by
    rw [ones]
    exact gridPoint?_ones whole small tie
  have inside : (Digits.ofNat magnitude).length - 1 < enoughDigits := by
    unfold enoughDigits
    omega
  obtain ⟨dropped, decimal, atMost, point, shortest⟩ :=
    exists_gridPoint_of_search tie inside known
  obtain ⟨places, same⟩ := Int.eq_ofNat_of_zero_le
    (by omega : 0 ≤ magnitudeExponent code - (dropped : Nat))
  rw [same] at point
  obtain ⟨value, exponent⟩ := value_of_gridPoint? whole small point
  rw [shortest, Decimal.value_reduce]
  refine ⟨value, le_trans ?_ (Decimal.exponent_le_reduce _ _)⟩
  rw [exponent]
  exact Int.natCast_nonneg places

end Whole

/-! ## The numeral -/

/-- The digits of a whole number are those of its decimal with its zeros. -/
theorem digits_of_whole {decimal : Decimal} {magnitude : Nat} (positive : 0 < magnitude)
    (value : decimal.value = magnitude) (nonneg : 0 ≤ decimal.exponent) :
    decimal.digits ++ List.replicate decimal.exponent.toNat 0 = Digits.ofNat magnitude := by
  obtain ⟨significand, exponent⟩ := decimal
  obtain ⟨places, rfl⟩ := Int.eq_ofNat_of_zero_le nonneg
  rw [value_of_natCast_exponent] at value
  have same : significand * 10 ^ places = magnitude := by exact_mod_cast value
  have nonzero : 0 < significand := by
    apply Nat.pos_of_ne_zero
    rintro rfl
    rw [Nat.zero_mul] at same
    exact positive.ne same
  rw [← same, Digits.ofNat_mul_pow nonzero, Decimal.digits, Int.toNat_natCast]

theorem numeral_of_whole (negative : Bool) {code magnitude : Nat}
    (whole : units code = magnitude * unitsPerOne) (small : magnitude < wholeBound)
    (positive : 0 < magnitude) :
    displayLayout.numeral negative code
      = { negative, whole := Digits.ofNat magnitude, fraction := [] } := by
  have nonzero : code ≠ 0 := by
    rintro rfl
    rw [units_zero] at whole
    exact (Nat.mul_pos positive unitsPerOne_pos).ne whole
  obtain ⟨value, nonneg⟩ := shortestDecimal_of_whole whole small positive displayLayout.tie
  have digits := digits_of_whole positive value nonneg
  have count := congrArg List.length digits
  rw [List.length_append, List.length_replicate] at count
  have atLeast := Digits.length_ofNat_pos magnitude
  have atMost := length_digits_of_whole positive small
  have plain : displayLayout.plainFrom ≤ (shortestDecimal displayLayout.tie code).leadingExponent ∧
      (shortestDecimal displayLayout.tie code).leadingExponent < displayLayout.plainBelow := by
    have from_eq : displayLayout.plainFrom = -6 := rfl
    have below_eq : displayLayout.plainBelow = 21 := rfl
    rw [from_eq, below_eq, Decimal.leadingExponent]
    omega
  rw [Layout.numeral, if_neg nonzero, Layout.arrange, if_pos plain, Layout.plain, if_pos nonneg,
    digits]
  rfl

theorem text_of_whole (negative : Bool) (whole : Digits) :
    Numeral.text { negative, whole, fraction := [] }
      = (if negative then "-" else "") ++ String.ofList whole.toChars := by
  have chars : Numeral.toChars { negative, whole, fraction := [] }
      = (if negative then ['-'] else []) ++ whole.toChars := by
    simp [Numeral.toChars]
  rw [Numeral.text, chars, String.ofList_append]
  cases negative <;> rfl

/-- **A whole number is shown as its decimal spelling**, with a minus sign if it is
negative. -/
theorem resultText_of_isWhole {x : Binary64} {n : Int} (whole : x.IsWhole n)
    (small : n.natAbs < wholeBound) : resultText x = toString n := by
  cases whole with
  | @finite negative code magnitude exact =>
      rw [Binary64.natAbs_signed] at small
      rcases Nat.eq_zero_or_pos magnitude with rfl | positive
      · rw [Nat.zero_mul, units_eq_zero] at exact
        rw [resultText, exact, Binary64.signed_zero]
        rfl
      · rw [resultText, numeral_of_whole negative exact small positive,
          toString_signed negative positive, ← decimalText_eq_toString, decimalText,
          text_of_whole]

end PocketCalculator
