import PocketCalculator.Proofs.Number.Decimals
import PocketCalculator.Proofs.Number.Signs

/-!
# Whole numbers

Every natural number up to 2⁵³ is the magnitude of a code (`exists_code_of_whole`).
A number is whole if its magnitude is a natural number of ones (`IsWhole`); both
zeros are the whole number zero.

**The operations are exact on whole numbers** as long as the result lies below 2⁵³:
`IsWhole.add`, `IsWhole.sub`, `IsWhole.mul`, `IsWhole.div` for a division without
remainder, and `IsWhole.remainder` for the remainder with the sign of the dividend.
-/

set_option autoImplicit false

namespace PocketCalculator

/-- The bound up to which every natural number is a magnitude. -/
abbrev wholeBound : Nat := 2 ^ 53

theorem unitPlaces_eq : unitPlaces = 1074 := by
  rw [unitPlaces]

/-! ## Codes of whole numbers -/

/-- A multiple of a power of two has a row in a block.  The induction goes over the
power: a row of a later block stays and the block moves on, a row below that is
doubled. -/
theorem exists_row_of_whole {n : Nat} (small : n ≤ wholeBound) (places : Nat) :
    ∃ shift row, shift ≤ places ∧ row ≤ 2 * fractionCodes ∧
      (shift = 0 ∨ fractionCodes ≤ row) ∧ row * 2 ^ shift = n * 2 ^ places := by
  induction places with
  | zero => exact ⟨0, n, le_rfl, small, .inl rfl, rfl⟩
  | succ places ih =>
      obtain ⟨shift, row, inside, high, low, same⟩ := ih
      have doubled : row * 2 ^ shift * 2 = n * 2 ^ (places + 1) := by
        rw [same, Nat.mul_assoc, Nat.pow_succ]
      by_cases later : fractionCodes ≤ row
      · refine ⟨shift + 1, row, Nat.succ_le_succ inside, high, .inr later, ?_⟩
        rw [Nat.pow_succ, ← Nat.mul_assoc, doubled]
      · obtain rfl : shift = 0 := low.resolve_right later
        refine ⟨0, row * 2, Nat.zero_le _, by omega, .inl rfl, ?_⟩
        rw [← doubled, Nat.pow_zero, Nat.mul_one, Nat.mul_one]

/-- **Small whole numbers are magnitudes.** -/
theorem exists_code_of_whole {n : Nat} (small : n ≤ wholeBound) :
    ∃ code : Fin finiteCodes, units code = n * unitsPerOne := by
  obtain ⟨shift, row, inside, high, low, same⟩ := exists_row_of_whole small unitPlaces
  rw [unitPlaces_eq] at inside
  have bound : shift * fractionCodes + row < finiteCodes := by
    have blocks := Nat.mul_le_mul_right fractionCodes inside
    have nonempty := fractionCodes_pos
    unfold finiteCodes
    omega
  refine ⟨⟨shift * fractionCodes + row, bound⟩, ?_⟩
  rw [units_block high low, same, unitsPerOne_eq, Nat.pow_eq]

theorem units_code_of_whole {n : Nat} (small : n ≤ wholeBound) {decimal : Decimal}
    (same : decimal.value = n) : units decimal.code = n * unitsPerOne := by
  obtain ⟨code, exact⟩ := exists_code_of_whole small
  have nearest := decimal.isNearest_code
  have here := isNearest_units code
  rw [same] at nearest
  rw [exact, Nat.cast_mul] at here
  rw [nearest.unique here, exact]

namespace Binary64

/-! ## Whole numbers -/

/-- A number that is the given whole number, up to the sign of zero. -/
inductive IsWhole : Binary64 → Int → Prop where
  | finite (negative : Bool) {code : Fin finiteCodes} {magnitude : Nat}
      (exact : units code = magnitude * unitsPerOne) :
      IsWhole (.finite negative code) (signed negative magnitude)

/-- A whole number of ones below the bound is not rounded. -/
theorem isWhole_nearest (negative : Bool) {magnitude denominator : Nat}
    (small : magnitude < wholeBound) (positive : 0 < denominator) :
    IsWhole (nearest negative (magnitude * unitsPerOne * denominator) denominator)
      (signed negative magnitude) := by
  obtain ⟨code, exact⟩ := exists_code_of_whole small.le
  rw [← exact, nearest_units negative code positive]
  exact .finite negative exact

theorem isWhole_zero (negative : Bool) : IsWhole (zero negative) 0 := by
  have exact : units (⟨0, by decide⟩ : Fin finiteCodes) = 0 * unitsPerOne := by
    rw [Nat.zero_mul, units_zero]
  have whole := IsWhole.finite negative exact
  rw [signed_zero] at whole
  exact whole

theorem IsWhole.neg {x : Binary64} {n : Int} (whole : IsWhole x n) : IsWhole x.neg (-n) := by
  cases whole with
  | finite negative exact =>
      rw [← signed_not]
      exact .finite (!negative) exact

theorem IsWhole.exists_signedUnits {x : Binary64} {n : Int} (whole : IsWhole x n) :
    ∃ (negative : Bool) (code : Fin finiteCodes), x = Binary64.finite negative code ∧
      signedUnits negative code = n * unitsPerOne := by
  cases whole with
  | @finite negative code magnitude exact =>
      exact ⟨negative, code, rfl, by rw [signedUnits_eq_signed, exact, signed_mul_natCast]⟩

section Operations

variable {x y : Binary64} {left right : Int} (wholeLeft : IsWhole x left)
include wholeLeft

/-- **Sums are exact.** -/
theorem IsWhole.add (wholeRight : IsWhole y right) (small : (left + right).natAbs < wholeBound) :
    IsWhole (x.add y) (left + right) := by
  cases wholeLeft with
  | @finite sign code m exactLeft =>
      cases wholeRight with
      | @finite sign' code' k exactRight =>
          have total : signedUnits sign code + signedUnits sign' code'
              = (signed sign m + signed sign' k) * unitsPerOne := by
            rw [signedUnits_eq_signed, signedUnits_eq_signed, exactLeft, exactRight, Int.add_mul,
              signed_mul_natCast, signed_mul_natCast]
          rw [Binary64.add, total]
          generalize signed sign m + signed sign' k = sum at small ⊢
          have ones : (0 : Int) < unitsPerOne := by exact_mod_cast unitsPerOne_pos
          by_cases none : sum = 0
          · rw [none, Int.zero_mul, if_pos rfl]
            exact isWhole_zero _
          · have negative : sum * unitsPerOne < 0 ↔ sum < 0 := by
              have scaled : sum * unitsPerOne < 0 * unitsPerOne ↔ sum < 0 :=
                Int.mul_lt_mul_right ones
              rwa [Int.zero_mul] at scaled
            have whole := isWhole_nearest (decide (sum < 0)) small Nat.one_pos
            rw [signed_natAbs, Nat.mul_one] at whole
            rw [if_neg (Int.mul_ne_zero none ones.ne'), Int.natAbs_mul, Int.natAbs_natCast]
            simp only [negative]
            exact whole

/-- **Differences are exact.** -/
theorem IsWhole.sub (wholeRight : IsWhole y right) (small : (left - right).natAbs < wholeBound) :
    IsWhole (x.sub y) (left - right) := by
  rw [Int.sub_eq_add_neg] at small ⊢
  exact wholeLeft.add wholeRight.neg small

/-- **Products are exact.** -/
theorem IsWhole.mul (wholeRight : IsWhole y right) (small : (left * right).natAbs < wholeBound) :
    IsWhole (x.mul y) (left * right) := by
  cases wholeLeft with
  | @finite sign code m exactLeft =>
      cases wholeRight with
      | @finite sign' code' k exactRight =>
          rw [signed_mul, natAbs_signed] at small
          rw [signed_mul, Binary64.mul, exactLeft, exactRight]
          have product :
              m * unitsPerOne * (k * unitsPerOne) = m * k * unitsPerOne * unitsPerOne := by
            ring
          rw [product]
          exact isWhole_nearest _ small unitsPerOne_pos

theorem IsWhole.isZero_iff : x.isZero = true ↔ left = 0 := by
  cases wholeLeft with
  | @finite sign code m exactLeft =>
      rw [isZero, beq_iff_eq, ← units_eq_zero, exactLeft, ← Int.natAbs_eq_zero, natAbs_signed]
      exact ⟨fun none => (Nat.mul_eq_zero.mp none).resolve_right unitsPerOne_pos.ne',
        fun none => by rw [none, Nat.zero_mul]⟩

/-- **The remainder is exact.** -/
theorem IsWhole.remainder (wholeRight : IsWhole y right) (nonzero : right ≠ 0)
    (small : left.natAbs < wholeBound) : IsWhole (x.remainder y) (left.tmod right) := by
  have divisor := (not_congr wholeRight.isZero_iff).mpr nonzero
  cases wholeLeft with
  | @finite sign code m exactLeft =>
      cases wholeRight with
      | @finite sign' code' k exactRight =>
          rw [isZero, beq_iff_eq] at divisor
          rw [natAbs_signed] at small
          rw [signed_tmod, Binary64.remainder, if_neg divisor, exactLeft, exactRight,
            Nat.mul_mod_mul_right]
          have less : m % k < wholeBound := (Nat.mod_le m k).trans_lt small
          have whole := isWhole_nearest sign less Nat.one_pos
          rw [Nat.mul_one] at whole
          exact whole

end Operations

/-- **A division without remainder is exact.** -/
theorem IsWhole.div {x y : Binary64} {quotient divisor : Int}
    (wholeLeft : IsWhole x (quotient * divisor)) (wholeRight : IsWhole y divisor)
    (nonzero : divisor ≠ 0) (small : quotient.natAbs < wholeBound) :
    IsWhole (x.div y) quotient := by
  have notZero := (not_congr wholeRight.isZero_iff).mpr nonzero
  generalize product : quotient * divisor = dividend at wholeLeft
  cases wholeLeft with
  | @finite sign code m exactLeft =>
      cases wholeRight with
      | @finite sign' code' k exactRight =>
          have magnitude : quotient.natAbs * k = m := by
            have := congrArg Int.natAbs product
            rwa [Int.natAbs_mul, natAbs_signed, natAbs_signed] at this
          have positive : 0 < units code' :=
            Nat.pos_of_ne_zero fun none => notZero (beq_iff_eq.mpr (units_eq_zero.mp none))
          -- The sign of the quotient is what the divisor's sign turns into the dividend's.
          have value : signed (sign != sign') quotient.natAbs = quotient := by
            apply Int.eq_of_mul_eq_mul_right nonzero
            rw [signed_mul, product, magnitude]
            cases sign <;> cases sign' <;> rfl
          have ones :
              m * unitsPerOne * unitsPerOne = quotient.natAbs * unitsPerOne * units code' := by
            rw [exactRight, ← magnitude]
            ring
          rw [isZero, beq_iff_eq] at notZero
          rw [Binary64.div, if_neg notZero, exactLeft, ones, ← value, natAbs_signed]
          exact isWhole_nearest _ small positive

end Binary64
end PocketCalculator
