import PocketCalculator.Number.Layout

/-!
# The text of a result

A result is shown with the fewest digits that read back as it, written out from
one millionth up to below 10²¹ and with a power of ten elsewhere.  A whole
number has no point, and both zeros are shown as `0`.
-/

set_option autoImplicit false

namespace PocketCalculator

/-- The layout of numbers on the display. -/
def displayLayout : Layout :=
  { tie := .away, plainFrom := -6, plainBelow := 21, wholePoint := false, signedZero := false }

/-- The text that the display shows for a number. -/
def resultText : Binary64 → String
  | .nan => "NaN"
  | .infinite negative => if negative then "-Infinity" else "Infinity"
  | .finite negative code => (displayLayout.numeral negative code).text

end PocketCalculator
