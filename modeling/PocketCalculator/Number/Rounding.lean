import PocketCalculator.Number.Binary64

/-!
# Rounding to a binary64 number

A quotient of natural numbers, taken in units, is rounded to the nearest
binary64 number, a tie going to the number with the even code.  All numbers of
the calculator come from this one function: literals, sums, products and
quotients are exact rationals first and are rounded once.
-/

set_option autoImplicit false

namespace PocketCalculator

/-- The natural number nearest to a quotient; a half goes to the even neighbour. -/
def roundedQuotient (numerator denominator : Nat) : Nat :=
  let floor := numerator / denominator
  let twice := 2 * (numerator % denominator)
  if twice < denominator then floor
  else if denominator < twice then floor + 1
  else floor + floor % 2

/-- How many low binary digits a quotient loses so that 53 remain. -/
def droppedBits (quotient : Nat) : Nat :=
  if quotient < 2 * fractionCodes then 0 else Nat.log2 quotient - 52

/-- The code nearest to a quotient of units, on the scale of codes continued
past the largest finite number.  A significand that rounds up to 2⁵³ carries into
the next block of codes by itself. -/
def nearestCode (numerator denominator : Nat) : Nat :=
  let shift := droppedBits (numerator / denominator)
  shift * fractionCodes + roundedQuotient numerator (denominator * Nat.pow 2 shift)

namespace Binary64

/-- The number nearest to a quotient of units, with the given sign; a quotient
that rounds past the largest finite number becomes infinite. -/
def nearest (negative : Bool) (numerator denominator : Nat) : Binary64 :=
  let code := nearestCode numerator denominator
  if h : code < finiteCodes then finite negative ⟨code, h⟩ else infinite negative

/-- The number nearest to a natural number. -/
def ofNat (value : Nat) : Binary64 := nearest false (value * unitsPerOne) 1

end Binary64

end PocketCalculator
