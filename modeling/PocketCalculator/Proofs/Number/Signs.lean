import PocketCalculator.Proofs.Number.Nearest

/-!
# Signs

A finite number is a sign and a magnitude, and so is an integer (`signed`).  The
operations on integers act on signs as those on numbers do: a product or a quotient
has the sign that its operands differ in, a remainder that of the dividend.
-/

set_option autoImplicit false

namespace PocketCalculator
namespace Binary64

/-! ## Integers -/

/-- The integer with the given sign and magnitude. -/
def signed (negative : Bool) (magnitude : Nat) : Int :=
  if negative then -(magnitude : Int) else magnitude

theorem signed_false (magnitude : Nat) : signed false magnitude = magnitude := rfl

@[simp] theorem natAbs_signed (negative : Bool) (magnitude : Nat) :
    (signed negative magnitude).natAbs = magnitude := by
  cases negative with
  | false => exact Int.natAbs_natCast _
  | true => rw [signed, if_pos rfl, Int.natAbs_neg, Int.natAbs_natCast]

theorem signed_zero (negative : Bool) : signed negative 0 = 0 := by
  cases negative <;> rfl

theorem signed_natAbs (total : Int) : signed (decide (total < 0)) total.natAbs = total := by
  unfold signed
  split
  · rename_i negative
    rw [decide_eq_true_eq] at negative
    omega
  · rename_i nonneg
    rw [decide_eq_true_eq] at nonneg
    omega

theorem decide_signed_lt_zero (negative : Bool) {magnitude : Nat} (positive : 0 < magnitude) :
    decide (signed negative magnitude < 0) = negative := by
  cases negative with
  | false => simp [signed]
  | true => simp [signed, positive]

theorem signed_mul (left right : Bool) (m k : Nat) :
    signed left m * signed right k = signed (left != right) (m * k) := by
  cases left <;> cases right <;> simp [signed]

theorem signed_mul_natCast (negative : Bool) (m k : Nat) :
    signed negative (m * k) = signed negative m * k := by
  cases negative <;> simp [signed]

theorem signed_not (negative : Bool) (magnitude : Nat) :
    signed (!negative) magnitude = -signed negative magnitude := by
  cases negative <;> simp [signed]

/-- The truncated remainder has the sign of the dividend. -/
theorem signed_tmod (left right : Bool) (m k : Nat) :
    (signed left m).tmod (signed right k) = signed left (m % k) := by
  cases left <;> cases right <;> simp [signed, Int.tmod_eq_emod_of_nonneg]

/-! ## Units -/

theorem signedUnits_eq_signed (negative : Bool) (code : Nat) :
    signedUnits negative code = signed negative (units code) := rfl

@[simp] theorem signedUnits_zero (negative : Bool) : signedUnits negative 0 = 0 :=
  signed_zero negative

theorem signedUnits_eq_zero {negative : Bool} {code : Nat} :
    signedUnits negative code = 0 ↔ code = 0 := by
  rw [← Int.natAbs_eq_zero, signedUnits_eq_signed, natAbs_signed, units_eq_zero]

/-! ## Numbers -/

/-- A number is the rounding of its own units. -/
theorem nearest_signedUnits (negative : Bool) {code : Fin finiteCodes} (nonzero : code.val ≠ 0) :
    nearest (decide (signedUnits negative code < 0)) (signedUnits negative code).natAbs 1
      = finite negative code := by
  have positive : 0 < units code := Nat.pos_of_ne_zero fun none => nonzero (units_eq_zero.mp none)
  have exact := nearest_units negative code Nat.one_pos
  rw [Nat.mul_one] at exact
  rw [signedUnits_eq_signed, decide_signed_lt_zero negative positive, natAbs_signed, exact]

theorem neg_nearest (negative : Bool) (numerator denominator : Nat) :
    neg (nearest negative numerator denominator) = nearest (!negative) numerator denominator := by
  unfold nearest
  dsimp only
  split
  · rfl
  · rfl

end Binary64
end PocketCalculator
