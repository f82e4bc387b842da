import PocketCalculator.Json.Basic
import PocketCalculator.Number.Arithmetic
import PocketCalculator.Number.Layout

/-!
# Numbers in JSON

A binary64 number is written with the fewest digits that read back as it, always
with a point or a power of ten.

A number is read in two steps.  Its digits are gathered into a significand of 64
bits; digits that no longer fit only shift the power of ten.  The significand is
rounded to a binary64 number, which is then multiplied or divided by the power of
ten.  As each step rounds, the result can differ in its last bit from the number
nearest to the digits.  A number that comes out infinite is refused.
-/

set_option autoImplicit false

namespace PocketCalculator
namespace Json

/-! ## Natural numbers -/

/-- The natural number that a numeral writes if it has no sign, no fraction and
no power of ten. -/
def naturalOf? (numeral : Numeral) : Option Nat :=
  if numeral.negative || !numeral.fraction.isEmpty || numeral.exponent.isSome then none
  else some (Digits.value numeral.whole)

/-- The natural number that a value is, if it is at most the given one. -/
def natural? (most : Nat) : Json → Option Nat
  | number numeral => (naturalOf? numeral).filter fun value => value ≤ most
  | _ => none

/-! ## Writing binary64 numbers -/

/-- The layout of numbers in JSON. -/
def storedLayout : Layout :=
  { tie := .toEven, plainFrom := -5, plainBelow := 16, wholePoint := true, signedZero := true }

/-- A binary64 number as a JSON value; JSON has no other numbers than finite ones. -/
def ofBinary64 : Binary64 → Json
  | .finite negative code => number (storedLayout.numeral negative code)
  | _ => null

/-! ## Reading binary64 numbers -/

/-- The largest significand. -/
def largestSignificand : Nat := UInt64.size - 1

/-- The largest size of an exponent that is taken into account. -/
def largestExponent : Nat := 0x7FFFFFFF

/-- The largest power of ten with a binary64 number of its own. -/
def largestPower : Nat := 308

/-- Adds whole digits to a significand.  From the first digit that does not fit
on, the digits are only counted. -/
def gatherWhole (significand : Nat) : Digits → Nat × Nat
  | [] => (significand, 0)
  | digit :: rest =>
      let longer := 10 * significand + digit.val
      if longer ≤ largestSignificand then gatherWhole longer rest
      else (significand, rest.length + 1)

/-- Adds fraction digits to a significand and counts them, up to the first digit
that does not fit. -/
def gatherFraction (significand : Nat) : Digits → Nat × Nat
  | [] => (significand, 0)
  | digit :: rest =>
      let longer := 10 * significand + digit.val
      if longer ≤ largestSignificand then
        let (total, count) := gatherFraction longer rest
        (total, count + 1)
      else (significand, 0)

/-- The binary64 number nearest to a power of ten. -/
def powerOfTen (exponent : Nat) : Binary64 := .ofNat (Nat.pow 10 exponent)

/-- Divides by a power of ten, in steps of the largest one that there is. -/
def divideByPower (x : Binary64) (exponent : Nat) : Binary64 :=
  if _small : exponent ≤ largestPower then x.div (powerOfTen exponent)
  else if x.isZero then x
  else divideByPower (x.div (powerOfTen largestPower)) (exponent - largestPower)
termination_by exponent
decreasing_by
  simp only [largestPower] at *
  omega

/-- Multiplies by a power of ten; there is no result past the largest finite number. -/
def multiplyByPower? (x : Binary64) (exponent : Nat) : Option Binary64 :=
  if exponent ≤ largestPower then
    match x.mul (powerOfTen exponent) with
    | .infinite _ => none
    | product => some product
  else if x.isZero then some x
  else none

/-- A significand times a power of ten. -/
def scale? (significand : Nat) (exponent : Int) : Option Binary64 :=
  if 0 ≤ exponent then multiplyByPower? (.ofNat significand) exponent.toNat
  else some (divideByPower (.ofNat significand) exponent.natAbs)

/-- The magnitude that a numeral is read as. -/
def magnitude? (numeral : Numeral) : Option Binary64 :=
  let (whole, uncounted) := gatherWhole 0 numeral.whole
  let (significand, places) := gatherFraction whole numeral.fraction
  let shift : Int := (uncounted : Int) - places
  match numeral.exponent with
  | none => scale? significand shift
  | some { negative, digits } =>
      let size := Digits.value digits
      if size ≤ largestExponent then
        scale? significand (if negative then shift - size else shift + size)
      else if significand = 0 ∨ negative then some (.zero false)
      else none

/-- The binary64 number that a numeral is read as. -/
def binary64Of? (numeral : Numeral) : Option Binary64 :=
  (magnitude? numeral).map fun magnitude =>
    if numeral.negative then magnitude.neg else magnitude

/-- The binary64 number that a value is. -/
def binary64? : Json → Option Binary64
  | number numeral => binary64Of? numeral
  | _ => none

end Json
end PocketCalculator
