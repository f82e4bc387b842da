import PocketCalculator.Number.Shortest

/-!
# Layouts of numbers

A layout says how the shortest decimal of a number is written: which magnitudes
are written out and which with a power of ten, whether a whole number has a
fraction digit, and what becomes of the sign of zero.
-/

set_option autoImplicit false

namespace PocketCalculator

/-- The decisions that turn the shortest decimal of a number into a numeral. -/
structure Layout where
  /-- Which of two equally near shortest decimals is written. -/
  tie : Tie
  /-- The least exponent of a first digit for which no power of ten is written. -/
  plainFrom : Int
  /-- The exponents of a first digit from which on a power of ten is written. -/
  plainBelow : Int
  /-- Whether a whole number that is written out has the fraction digit zero. -/
  wholePoint : Bool
  /-- Whether the zero of negative sign has a minus sign. -/
  signedZero : Bool
deriving DecidableEq, Repr

namespace Layout

/-- The fraction digits of a whole number that is written out. -/
def wholeFraction (layout : Layout) : Digits := if layout.wholePoint then [0] else []

/-- A decimal written out, with zeros between its digits and the point if needed. -/
def plain (layout : Layout) (negative : Bool) (decimal : Decimal) : Numeral :=
  let digits := decimal.digits
  let leading := decimal.leadingExponent
  if 0 ≤ decimal.exponent then
    { negative, whole := digits ++ List.replicate decimal.exponent.toNat 0,
      fraction := layout.wholeFraction }
  else if 0 ≤ leading then
    { negative, whole := digits.take (leading.toNat + 1),
      fraction := digits.drop (leading.toNat + 1) }
  else
    { negative, whole := [0],
      fraction := List.replicate (-leading - 1).toNat 0 ++ digits }

/-- A decimal with one digit before the point and a power of ten. -/
def scientific (negative : Bool) (decimal : Decimal) : Numeral :=
  { negative, whole := decimal.digits.take 1, fraction := decimal.digits.drop 1,
    exponent := some (Exponent.ofInt decimal.leadingExponent) }

/-- The numeral of a decimal with the given sign. -/
def arrange (layout : Layout) (negative : Bool) (decimal : Decimal) : Numeral :=
  let leading := decimal.leadingExponent
  if layout.plainFrom ≤ leading ∧ leading < layout.plainBelow then
    layout.plain negative decimal
  else scientific negative decimal

/-- The numeral of the finite number with the given sign and code. -/
def numeral (layout : Layout) (negative : Bool) (code : Nat) : Numeral :=
  if code = 0 then
    { negative := layout.signedZero && negative, whole := [0], fraction := layout.wholeFraction }
  else layout.arrange negative (shortestDecimal layout.tie code)

end Layout

end PocketCalculator
