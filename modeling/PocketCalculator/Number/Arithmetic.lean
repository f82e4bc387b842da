import PocketCalculator.Number.Rounding

/-!
# Arithmetic on binary64 numbers

Each operation computes its exact result on units and rounds it once.  The
remainder is that of the division truncated toward zero; it is exact and has the
sign of the dividend.
-/

set_option autoImplicit false

namespace PocketCalculator
namespace Binary64

/-- The number with the opposite sign. -/
def neg : Binary64 → Binary64
  | nan => nan
  | infinite negative => infinite (!negative)
  | finite negative code => finite (!negative) code

/-- The rounded sum.  A sum that is exactly zero is negative only if both
operands are. -/
def add : Binary64 → Binary64 → Binary64
  | nan, _ => nan
  | _, nan => nan
  | infinite left, infinite right => if left = right then infinite left else nan
  | infinite left, finite _ _ => infinite left
  | finite _ _, infinite right => infinite right
  | finite left leftCode, finite right rightCode =>
      let total := signedUnits left leftCode + signedUnits right rightCode
      if total = 0 then zero (left && right)
      else nearest (decide (total < 0)) total.natAbs 1

/-- The rounded difference. -/
def sub (x y : Binary64) : Binary64 := add x (neg y)

/-- The rounded product. -/
def mul : Binary64 → Binary64 → Binary64
  | nan, _ => nan
  | _, nan => nan
  | infinite left, infinite right => infinite (left != right)
  | infinite left, finite right code =>
      if code.val = 0 then nan else infinite (left != right)
  | finite left code, infinite right =>
      if code.val = 0 then nan else infinite (left != right)
  | finite left leftCode, finite right rightCode =>
      nearest (left != right) (units leftCode * units rightCode) unitsPerOne

/-- The rounded quotient. -/
def div : Binary64 → Binary64 → Binary64
  | nan, _ => nan
  | _, nan => nan
  | infinite _, infinite _ => nan
  | infinite left, finite right _ => infinite (left != right)
  | finite left _, infinite right => zero (left != right)
  | finite left leftCode, finite right rightCode =>
      if rightCode.val = 0 then
        if leftCode.val = 0 then nan else infinite (left != right)
      else nearest (left != right) (units leftCode * unitsPerOne) (units rightCode)

/-- The remainder of the division truncated toward zero. -/
def remainder : Binary64 → Binary64 → Binary64
  | nan, _ => nan
  | _, nan => nan
  | infinite _, _ => nan
  | finite left code, infinite _ => finite left code
  | finite left leftCode, finite _ rightCode =>
      if rightCode.val = 0 then nan
      else nearest left (units leftCode % units rightCode) 1

/-! ## NaN -/

@[simp] theorem nan_add (x : Binary64) : add nan x = nan := by cases x <;> rfl
@[simp] theorem nan_sub (x : Binary64) : sub nan x = nan := by cases x <;> rfl
@[simp] theorem nan_mul (x : Binary64) : mul nan x = nan := by cases x <;> rfl
@[simp] theorem nan_div (x : Binary64) : div nan x = nan := by cases x <;> rfl
@[simp] theorem nan_remainder (x : Binary64) : remainder nan x = nan := by cases x <;> rfl

end Binary64
end PocketCalculator
