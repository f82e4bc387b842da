import PocketCalculator.Number.Numeral

/-!
# The shortest decimal of a binary64 number

A finite number is written with the fewest significant digits that read back as
that number.  The decimals with `n` significant digits near a magnitude form a
grid; the grids with 1, 2, …, 17 digits are searched in turn, and of each only
the two points that enclose the magnitude need to be tried.  The first grid with
a point that reads back wins, and of two such points the nearer.

All comparisons are between natural numbers.  `Decimal.code` is the reading that
the search inverts.
-/

set_option autoImplicit false

namespace PocketCalculator

/-! ## Decimals -/

/-- The number `significand * 10 ^ exponent`. -/
structure Decimal where
  /-- The digits as one natural number. -/
  significand : Nat
  /-- The power of ten of the last digit. -/
  exponent : Int
deriving DecidableEq, Repr

namespace Decimal

/-- The decimal as a numerator and a denominator. -/
def ratio (decimal : Decimal) : Nat × Nat :=
  if 0 ≤ decimal.exponent then (decimal.significand * Nat.pow 10 decimal.exponent.toNat, 1)
  else (decimal.significand, Nat.pow 10 (-decimal.exponent).toNat)

/-- The code of the binary64 magnitude nearest to a decimal. -/
def code (decimal : Decimal) : Nat :=
  nearestCode (decimal.ratio.1 * unitsPerOne) decimal.ratio.2

/-- The same number without trailing zeros in the significand. -/
def reduce (significand : Nat) (exponent : Int) : Decimal :=
  if h : significand ≠ 0 ∧ significand % 10 = 0 then reduce (significand / 10) (exponent + 1)
  else { significand, exponent }
termination_by significand
decreasing_by omega

/-- The digits of the significand. -/
def digits (decimal : Decimal) : Digits := Digits.ofNat decimal.significand

/-- The power of ten of the first digit. -/
def leadingExponent (decimal : Decimal) : Int :=
  decimal.exponent + decimal.digits.length - 1

end Decimal

/-! ## Grids -/

/-- Which of two equally near points of a grid is taken. -/
inductive Tie where
  | toEven
  | away
deriving DecidableEq, Repr

/-- The quotient of a magnitude, given by its code, and the grid step `10 ^ position`. -/
def gridRatio (code : Nat) (position : Int) : Nat × Nat :=
  if 0 ≤ position then (units code, unitsPerOne * Nat.pow 10 position.toNat)
  else (units code * Nat.pow 10 (-position).toNat, unitsPerOne)

/-- Whether the upper of the two points that enclose a quotient is taken when
both read back: the nearer one is, and `tie` decides if they are equally near. -/
def takesUpper (tie : Tie) (numerator denominator : Nat) : Bool :=
  let twice := 2 * (numerator % denominator)
  if twice = denominator then
    match tie with
    | .toEven => numerator / denominator % 2 == 1
    | .away => true
  else decide (denominator < twice)

/-- The enclosing point of the grid with step `10 ^ position` that reads back as
the given code; the nearer one if both do. -/
def gridPoint? (tie : Tie) (code : Nat) (position : Int) : Option Decimal :=
  let (numerator, denominator) := gridRatio code position
  let below := numerator / denominator
  let lower : Decimal := { significand := below, exponent := position }
  let upper : Decimal := { significand := below + 1, exponent := position }
  if lower.code = code then
    if upper.code = code ∧ takesUpper tie numerator denominator = true then some upper
    else some lower
  else if upper.code = code then some upper
  else none

/-- More decimal places than separate the smallest magnitude from zero. -/
abbrev searchPlaces : Nat := 330

/-- The power of ten of the first significant digit of a nonzero magnitude. -/
def magnitudeExponent (code : Nat) : Int :=
  (Digits.ofNat (units code * Nat.pow 10 searchPlaces / unitsPerOne)).length - 1
    - (searchPlaces : Int)

/-- The most digits that a number needs in order to be read back. -/
abbrev enoughDigits : Nat := 17

/-- The magnitude itself, which is a decimal with at most as many places as a
unit has binary places. -/
def exactDecimal (code : Nat) : Decimal :=
  { significand := units code * Nat.pow 5 unitPlaces, exponent := -(unitPlaces : Int) }

/-- The shortest decimal that reads back as a nonzero code.  Should no grid with
enough digits hold one, the magnitude itself is written. -/
def shortestDecimal (tie : Tie) (code : Nat) : Decimal :=
  let leading := magnitudeExponent code
  let found := (List.range enoughDigits).findSome? fun (dropped : Nat) =>
    gridPoint? tie code (leading - dropped)
  let decimal := found.getD (exactDecimal code)
  Decimal.reduce decimal.significand decimal.exponent

/-! ## Laws -/

/-- A point that the search takes from a grid reads back. -/
theorem code_of_gridPoint? {tie : Tie} {code : Nat} {position : Int} {decimal : Decimal}
    (found : gridPoint? tie code position = some decimal) : decimal.code = code := by
  unfold gridPoint? at found
  dsimp only at found
  split at found
  · rename_i lower
    split at found
    · rename_i upper
      rw [← Option.some.inj found]
      exact upper.1
    · rw [← Option.some.inj found]
      exact lower
  · split at found
    · rename_i upper
      rw [← Option.some.inj found]
      exact upper
    · contradiction

end PocketCalculator
