import PocketCalculator.Proofs.Expression.ZeroSign
import PocketCalculator.Proofs.Json.Numbers
import PocketCalculator.Proofs.Number.FewestDigits
import PocketCalculator.Proofs.Number.SignificantDigits

/-!
# Canonical texts

A finite result has one numeral that it should be shown as (`Numeral.IsCanonical`): with
its sign, written out in the range of the display and with a power of ten outside, without
a digit that could be left out, rounded to the number and as short as any numeral that is.
The three parts come from the layout, which needs digits that do not end in zero
(`Layout.isPlain_plain`, `Layout.isScientific_scientific`), from the reading of the
shortest decimal (`code_shortestDecimal`), and from the bound on its digits
(`significand_shortestDecimal_lt`).

**A result is shown as its canonical numeral, and different results are shown
differently** (`resultText_canonical`): a numeral in which nothing is superfluous is
determined by its text (`Numeral.text_injOn`).
-/

set_option autoImplicit false

namespace PocketCalculator

/-! ## Shapes of numerals -/

namespace Numeral

/-- A numeral without a power of ten: its whole digits have no superfluous zero in front,
and its fraction digits, if it has any, do not end in zero. -/
structure IsPlain (numeral : Numeral) : Prop extends numeral.Proper where
  fraction : numeral.fraction.getLast? ≠ some 0
  noExponent : numeral.exponent = none

/-- Digits around a point are a plain numeral if none of them is superfluous. -/
theorem isPlain_mk (negative : Bool) {whole fraction : Digits} (nonempty : whole ≠ [])
    (noLeadingZero : ∀ digit rest, whole ≠ 0 :: digit :: rest)
    (last : fraction.getLast? ≠ some 0) : IsPlain { negative, whole, fraction } where
  nonempty := nonempty
  noLeadingZero := noLeadingZero
  exponent _ same := absurd same.symm (Option.some_ne_none _)
  fraction := last
  noExponent := rfl

/-- Without fraction digits none of them is zero. -/
theorem getLast?_nil_ne_zero : List.getLast? ([] : Digits) ≠ some 0 :=
  (Option.some_ne_none _).symm

theorem zero_ne_zero_cons (digit : Digit) (rest : Digits) : ([0] : Digits) ≠ 0 :: digit :: rest :=
  fun same => List.cons_ne_nil _ _ (List.cons.inj same).2.symm

/-- A numeral with one digit that is not zero before the point, fraction digits that do not
end in zero, and a power of ten whose digits do not start with zero.  The sign of the power
is always written. -/
structure IsScientific (numeral : Numeral) : Prop where
  whole : ∃ digit : Digit, digit ≠ 0 ∧ numeral.whole = [digit]
  fraction : numeral.fraction.getLast? ≠ some 0
  power : ∃ exponent : Exponent, numeral.exponent = some exponent ∧ exponent.digits ≠ [] ∧
    exponent.digits.head? ≠ some 0

theorem IsScientific.proper {numeral : Numeral} (scientific : numeral.IsScientific) :
    numeral.Proper := by
  obtain ⟨first, _, single⟩ := scientific.whole
  obtain ⟨power, written, nonempty, _⟩ := scientific.power
  constructor
  · rw [single]
    exact List.cons_ne_nil _ _
  · intro digit rest same
    rw [single] at same
    exact List.cons_ne_nil _ _ (List.cons.inj same).2.symm
  · intro exponent same
    rw [written] at same
    rw [← Option.some.inj same]
    exact nonempty

/-- **A proper numeral is determined by its text.** -/
theorem text_injOn : Set.InjOn Numeral.text {numeral | numeral.Proper} := by
  intro first properFirst second properSecond same
  have chars : first.toChars = second.toChars := String.ofList_injective same
  have readFirst := @Json.number?_written [] first properFirst rfl
  have readSecond := @Json.number?_written [] second properSecond rfl
  rw [chars, readSecond] at readFirst
  exact (Prod.mk.inj (Option.some.inj readFirst)).1.symm

/-- What is not read as a numeral is not the text of one. -/
theorem text_ne_of_unread {numeral : Numeral} (proper : numeral.Proper) {text : String}
    (unread : Json.number? text.toList = none) : numeral.text ≠ text := by
  rintro rfl
  have read := @Json.number?_written [] numeral proper rfl
  rw [List.append_nil] at read
  rw [text, String.toList_ofList, read] at unread
  exact absurd unread (Option.some_ne_none _)

/-- The number with the code is the nearest to the numeral without its sign, and the even one
of two that are equally near. -/
def IsReadAs (numeral : Numeral) (code : Nat) : Prop :=
  IsNearest (numeral.magnitude * unitsPerOne) code

theorem IsReadAs.unique {numeral : Numeral} {first second : Nat} (left : numeral.IsReadAs first)
    (right : numeral.IsReadAs second) : first = second :=
  IsNearest.unique left right

theorem isReadAs_of_magnitude {numeral : Numeral} {decimal : Decimal}
    (same : numeral.magnitude = decimal.value) : numeral.IsReadAs decimal.code := by
  rw [IsReadAs, same]
  exact decimal.isNearest_code

/-- The numeral that a finite number should be shown as: it has the sign of the number, which
for zero is not written, and the shape for its range; it is read as the number; and no
numeral that is has fewer significant digits. -/
structure IsCanonical (numeral : Numeral) (negative : Bool) (code : Fin finiteCodes) : Prop where
  sign : numeral.negative = (negative && code.val != 0)
  plain : ShownPlain (.finite negative code) → numeral.IsPlain
  scientific : ¬ ShownPlain (.finite negative code) → numeral.IsScientific
  reads : numeral.IsReadAs code
  fewest : ∀ other : Numeral, other.IsReadAs code →
    numeral.significantDigits ≤ other.significantDigits

theorem IsCanonical.proper {numeral : Numeral} {negative : Bool} {code : Fin finiteCodes}
    (canonical : numeral.IsCanonical negative code) : numeral.Proper := by
  by_cases plain : ShownPlain (.finite negative code)
  · exact (canonical.plain plain).toProper
  · exact (canonical.scientific plain).proper

end Numeral

/-! ## The digits of decimals -/

namespace Decimal

/-- Without its trailing zeros a significand does not end in zero. -/
theorem significand_reduce_mod {significand : Nat} {exponent : Int}
    (nonzero : (reduce significand exponent).significand ≠ 0) :
    (reduce significand exponent).significand % 10 ≠ 0 := by
  induction significand, exponent using reduce.induct with
  | case1 significand exponent trailing ih =>
      rw [reduce, dif_pos trailing] at nonzero ⊢
      exact ih nonzero
  | case2 significand exponent final =>
      rw [reduce, dif_neg final] at nonzero ⊢
      exact fun zero => final ⟨nonzero, zero⟩

theorem getLast?_digits {decimal : Decimal} (final : decimal.significand % 10 ≠ 0) :
    decimal.digits.getLast? ≠ some 0 := by
  rw [digits, Digits.getLast?_ofNat]
  intro zero
  exact final (congrArg Fin.val (Option.some.inj zero))

end Decimal

theorem significand_shortestDecimal_mod {tie : Tie} {code : Nat} (nonzero : code ≠ 0) :
    (shortestDecimal tie code).significand % 10 ≠ 0 := by
  have some_digit := @significand_shortestDecimal_ne_zero tie code nonzero
  obtain ⟨significand, exponent, reduced⟩ :
      ∃ significand exponent, shortestDecimal tie code = Decimal.reduce significand exponent :=
    ⟨_, _, rfl⟩
  rw [reduced] at some_digit ⊢
  exact Decimal.significand_reduce_mod some_digit

/-! ## Layouts -/

namespace Layout

variable {decimal : Decimal} (negative : Bool)

/-- A numeral has the sign of its number. -/
theorem negative_plain (layout : Layout) (decimal : Decimal) :
    (layout.plain negative decimal).negative = negative := by
  obtain ⟨whole, fraction, _, digits⟩ := layout.exists_plainDigits decimal
  rw [digits negative]

theorem negative_arrange (layout : Layout) (decimal : Decimal) :
    (layout.arrange negative decimal).negative = negative := by
  rcases layout.arrange_cases negative decimal with plain | scientific
  · rw [plain, negative_plain]
  · rw [scientific]
    rfl

/-- **A decimal that is written out has no superfluous digit.** -/
theorem isPlain_plain (final : decimal.significand % 10 ≠ 0) :
    (displayLayout.plain negative decimal).IsPlain := by
  have last := Decimal.getLast?_digits final
  have nonempty : (displayLayout.plain negative decimal).whole ≠ [] := by
    obtain ⟨whole, fraction, nonempty, digits⟩ := displayLayout.exists_plainDigits decimal
    rw [digits negative]
    exact nonempty
  unfold Layout.plain at nonempty ⊢
  dsimp only at nonempty ⊢
  split at nonempty
  · rename_i places
    have positive : 0 < decimal.significand := Nat.pos_of_ne_zero fun zero => final (by rw [zero])
    have whole := Digits.ofNat_mul_pow positive decimal.exponent.toNat
    rw [if_pos places]
    apply Numeral.isPlain_mk negative nonempty _ Numeral.getLast?_nil_ne_zero
    rw [Decimal.digits, ← whole]
    exact Digits.ofNat_ne_zero_cons _
  · rename_i places
    rw [if_neg places]
    split at nonempty
    · rename_i inside
      dsimp only at nonempty
      rw [if_pos inside]
      apply Numeral.isPlain_mk negative nonempty
      · intro digit rest front
        have digits := List.take_append_drop (decimal.leadingExponent.toNat + 1) decimal.digits
        rw [front] at digits
        exact Digits.ofNat_ne_zero_cons _ _ _ digits.symm
      · rw [List.getLast?_drop]
        split
        · exact Numeral.getLast?_nil_ne_zero
        · exact last
    · rename_i outside
      rw [if_neg outside]
      apply Numeral.isPlain_mk negative nonempty Numeral.zero_ne_zero_cons
      rw [List.getLast?_append, Option.or_of_isSome]
      · exact last
      · rw [List.getLast?_isSome]
        exact Digits.ofNat_ne_nil _

/-- **A decimal that is written with a power of ten other than one has no superfluous
digit.** -/
theorem isScientific_scientific (final : decimal.significand % 10 ≠ 0)
    (power : decimal.leadingExponent ≠ 0) : (scientific negative decimal).IsScientific := by
  have nonzero : decimal.significand ≠ 0 := fun zero => final (by rw [zero])
  have first : decimal.digits.head? ≠ some 0 := Digits.head?_ofNat_ne_zero nonzero
  refine ⟨?_, ?_, Exponent.ofInt decimal.leadingExponent, rfl, Digits.ofNat_ne_nil _, ?_⟩
  · unfold scientific
    dsimp only
    cases parts : decimal.digits with
    | nil => exact absurd parts (Digits.ofNat_ne_nil _)
    | cons digit rest =>
        rw [parts] at first
        exact ⟨digit, fun zero => first (congrArg some zero), rfl⟩
  · unfold scientific
    dsimp only
    rw [List.getLast?_drop]
    split
    · exact Numeral.getLast?_nil_ne_zero
    · exact Decimal.getLast?_digits final
  · exact Digits.head?_ofNat_ne_zero (Int.natAbs_ne_zero.mpr power)

end Layout

/-! ## Results -/

/-- The numeral of zero. -/
theorem isCanonical_zero (negative : Bool) :
    (displayLayout.numeral negative 0).IsCanonical negative ⟨0, by decide⟩ := by
  have digits : displayLayout.numeral negative 0 = { whole := [0] } := rfl
  have nothing : Numeral.magnitude { whole := [0] } = 0 := by
    rw [Numeral.magnitude]
    exact div_eq_zero_iff.mpr (.inl Nat.cast_zero)
  rw [digits]
  constructor
  · exact (Bool.and_false _).symm
  · intro _
    exact Numeral.isPlain_mk false (List.cons_ne_nil _ _) Numeral.zero_ne_zero_cons
      Numeral.getLast?_nil_ne_zero
  · exact fun outside => absurd (.zero negative) outside
  · have exact := isNearest_units 0
    rw [units_zero, Nat.cast_zero] at exact
    rw [Numeral.IsReadAs, nothing, zero_mul]
    exact exact
  · exact fun other _ => Nat.zero_le _

/-- **No numeral that is read as a number has fewer significant digits than its shortest
decimal has digits.** -/
theorem length_digits_shortestDecimal_le (tie : Tie) {code : Nat} (nonzero : code ≠ 0)
    {numeral : Numeral} (reads : numeral.IsReadAs code) :
    (shortestDecimal tie code).digits.length ≤ numeral.significantDigits := by
  obtain ⟨decimal, same, few⟩ := numeral.exists_significantDecimal
  have readsDecimal : decimal.code = code :=
    (Numeral.isReadAs_of_magnitude same.symm).unique reads
  have some_digit := @significand_shortestDecimal_ne_zero tie code nonzero
  apply Digits.length_ofNat_le (Nat.pos_of_ne_zero some_digit)
  cases count : numeral.significantDigits with
  | zero =>
      rw [count, Nat.pow_zero, Nat.lt_one_iff] at few
      exact absurd (readsDecimal.symm.trans (Decimal.code_eq_zero few)) nonzero
  | succ digits =>
      rw [count] at few
      exact significand_shortestDecimal_lt nonzero tie few readsDecimal

/-- **The display writes the canonical numeral of a number.** -/
theorem isCanonical_numeral (negative : Bool) (code : Fin finiteCodes) :
    (displayLayout.numeral negative code).IsCanonical negative code := by
  by_cases zero : code = ⟨0, by decide⟩
  · rw [zero]
    exact isCanonical_zero negative
  have nonzero : code.val ≠ 0 := fun same => zero (Fin.ext same)
  have final := @significand_shortestDecimal_mod displayLayout.tie code nonzero
  have arranged : displayLayout.numeral negative code
      = displayLayout.arrange negative (shortestDecimal displayLayout.tie code) := by
    rw [Layout.numeral, if_neg nonzero]
  constructor
  · rw [arranged, Layout.negative_arrange, bne_iff_ne.mpr nonzero, Bool.and_true]
  · intro plain
    have range := (shownPlain_finite.mp plain).resolve_left nonzero
    rw [arranged, Layout.arrange, if_pos (leadingExponent_of_range range.1 range.2)]
    exact Layout.isPlain_plain negative final
  · intro notPlain
    have outside : code.val < plainFloor ∨ plainCeiling ≤ code.val := by
      by_contra inside
      rw [not_or, not_lt, not_le] at inside
      exact notPlain (shownPlain_finite.mpr (.inr inside))
    rw [numeral_of_not_range nonzero negative outside]
    apply Layout.isScientific_scientific negative final
    rcases outside with small | large
    · exact ((leadingExponent_lt_of_lt_plainFloor nonzero small).trans (by decide)).ne
    · exact (lt_of_lt_of_le (by decide) (le_leadingExponent_of_plainCeiling_le large)).ne'
  · have reads := Numeral.isReadAs_of_magnitude (displayLayout.magnitude_arrange negative
      (shortestDecimal displayLayout.tie code))
    rw [code_shortestDecimal] at reads
    rw [arranged]
    exact reads
  · intro other reads
    rw [arranged]
    exact (displayLayout.significantDigits_arrange_le negative _).trans
      (length_digits_shortestDecimal_le displayLayout.tie nonzero reads)

theorem resultText_finite (negative : Bool) (code : Fin finiteCodes) :
    resultText (.finite negative code) = (displayLayout.numeral negative code).text := rfl

/-- A finite number is not shown as a word. -/
theorem resultText_finite_ne {text : String} (unread : Json.number? text.toList = none)
    (negative : Bool) (code : Fin finiteCodes) : resultText (.finite negative code) ≠ text :=
  Numeral.text_ne_of_unread (isCanonical_numeral negative code).proper unread

open Binary64 (SameNumber)

/-- Finite numbers that are shown alike have the same numeral, so the same code and, unless
they are zeros, the same sign. -/
theorem sameNumber_of_resultText_finite {left right : Bool} {first second : Fin finiteCodes}
    (same : resultText (.finite left first) = resultText (.finite right second)) :
    SameNumber (.finite left first) (.finite right second) := by
  have canonicalFirst := isCanonical_numeral left first
  have canonicalSecond := isCanonical_numeral right second
  have numerals := Numeral.text_injOn canonicalFirst.proper canonicalSecond.proper same
  rw [numerals] at canonicalFirst
  obtain rfl : first = second := Fin.ext (canonicalFirst.reads.unique canonicalSecond.reads)
  have signs := canonicalFirst.sign.symm.trans canonicalSecond.sign
  by_cases nonzero : (first.val != 0) = true
  · rw [nonzero, Bool.and_true, Bool.and_true] at signs
    rw [signs]
    exact .refl _
  · have zero : (first.val == 0) = true := by
      rw [bne, Bool.not_eq_true', Bool.not_eq_false] at nonzero
      exact nonzero
    exact .inr ⟨zero, zero⟩

/-- **Different results are shown differently.** -/
theorem resultText_eq_iff (x y : Binary64) : resultText x = resultText y ↔ SameNumber x y := by
  have noNumeral : Json.number? "NaN".toList = none := by decide
  have noInfinity : ∀ negative, Json.number? (resultText (.infinite negative)).toList = none := by
    decide
  refine ⟨fun same => ?_, resultText_congr⟩
  cases x with
  | nan =>
      cases y with
      | nan => exact .refl _
      | infinite right => exact absurd same (by revert right; decide)
      | finite right second => exact absurd same.symm (resultText_finite_ne noNumeral right second)
  | infinite left =>
      cases y with
      | nan => exact absurd same (by revert left; decide)
      | infinite right =>
          obtain rfl : left = right := by
            revert left right
            decide
          exact .refl _
      | finite right second =>
          exact absurd same.symm (resultText_finite_ne (noInfinity left) right second)
  | finite left first =>
      cases y with
      | nan => exact absurd same (resultText_finite_ne noNumeral left first)
      | infinite right => exact absurd same (resultText_finite_ne (noInfinity right) left first)
      | finite right second => exact sameNumber_of_resultText_finite same

/-- **Results are shown canonically.** The numbers that are not finite are shown as words and
the zeros as `0`; every finite number is shown as its canonical numeral, the only proper
numeral with that text; and results that are shown alike are the same number up to the sign
of zero. -/
theorem resultText_canonical :
    resultText .nan = "NaN" ∧
      (resultText (.infinite false) = "Infinity" ∧ resultText (.infinite true) = "-Infinity") ∧
      (∀ negative, resultText (.zero negative) = "0") ∧
      (∀ (negative : Bool) (code : Fin finiteCodes), ∃ numeral : Numeral,
        numeral.IsCanonical negative code ∧
          resultText (.finite negative code) = numeral.text ∧
          ∀ other : Numeral, other.Proper →
            resultText (.finite negative code) = other.text → other = numeral) ∧
      ∀ x y, resultText x = resultText y ↔ SameNumber x y := by
  refine ⟨rfl, ⟨rfl, rfl⟩, fun _ => rfl, ?_, resultText_eq_iff⟩
  intro negative code
  have canonical := isCanonical_numeral negative code
  refine ⟨_, canonical, rfl, ?_⟩
  intro other proper same
  exact Numeral.text_injOn proper canonical.proper same.symm

end PocketCalculator
