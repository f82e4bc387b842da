import Mathlib.Algebra.Order.Field.Rat
import Mathlib.Data.Nat.Cast.Order.Field
import Mathlib.Order.Monotone.Basic
import Mathlib.Tactic.FieldSimp
import Mathlib.Tactic.Linarith
import Mathlib.Tactic.NormNum
import Mathlib.Tactic.Positivity
import Mathlib.Tactic.Ring
import PocketCalculator.Number.Arithmetic

/-!
# The nearest code

A rational number of units belongs to the code whose magnitude is nearest to it,
and halfway between two magnitudes to the even code (`IsNearest`).

**The rounding finds the nearest code** (`isNearest_nearestCode`).  It follows
that rounding is monotone (`nearestCode_le_nearestCode`), that it depends on the
rational number alone (`nearestCode_congr`), and that a magnitude is its own
rounding (`nearestCode_units`).
-/

set_option autoImplicit false

namespace PocketCalculator

/-! ## Magnitudes of codes -/

theorem fractionCodes_pos : 0 < fractionCodes := by decide

/-- The magnitudes of the block after the given number of blocks. -/
theorem units_later_block (shift : Nat) {place : Nat} (inside : place < fractionCodes) :
    units ((shift + 1) * fractionCodes + place) = (fractionCodes + place) * 2 ^ shift := by
  have notFirst : ¬ (shift + 1) * fractionCodes + place < fractionCodes := by
    rw [Nat.succ_mul]
    omega
  have fraction : ((shift + 1) * fractionCodes + place) % fractionCodes = place := by
    rw [Nat.add_comm, Nat.add_mul_mod_self_right, Nat.mod_eq_of_lt inside]
  have exponent : ((shift + 1) * fractionCodes + place) / fractionCodes = shift + 1 := by
    rw [Nat.add_comm, Nat.add_mul_div_right _ _ fractionCodes_pos, Nat.div_eq_of_lt inside,
      Nat.zero_add]
  rw [units, if_neg notFirst, fraction, exponent, Nat.add_sub_cancel, Nat.pow_eq]

/-- The codes of one block are a power of two of units apart; the first block has
twice the length, and every block reaches to the first code of the next. -/
theorem units_block {shift row : Nat} (high : row ≤ 2 * fractionCodes)
    (low : shift = 0 ∨ fractionCodes ≤ row) :
    units (shift * fractionCodes + row) = row * 2 ^ shift := by
  rcases Nat.lt_or_ge row fractionCodes with first | later
  · obtain rfl : shift = 0 := low.resolve_right (Nat.not_le_of_gt first)
    rw [Nat.zero_mul, Nat.zero_add, units, if_pos first, Nat.pow_zero, Nat.mul_one]
  · obtain ⟨place, rfl⟩ := Nat.exists_eq_add_of_le later
    rw [← Nat.add_assoc, ← Nat.succ_mul]
    rcases Nat.lt_or_eq_of_le (by omega : place ≤ fractionCodes) with inside | last
    · exact units_later_block shift inside
    · rw [last, ← Nat.succ_mul]
      have next := units_later_block (shift + 1) fractionCodes_pos
      rw [Nat.add_zero, Nat.add_zero, Nat.pow_succ] at next
      rw [next]
      ring

/-- Every code has a place in a block. -/
theorem exists_block (code : Nat) :
    ∃ shift row, code = shift * fractionCodes + row ∧ row < 2 * fractionCodes ∧
      (shift = 0 ∨ fractionCodes ≤ row) := by
  rcases Nat.lt_or_ge code fractionCodes with first | later
  · exact ⟨0, code, by rw [Nat.zero_mul, Nat.zero_add], by omega, .inl rfl⟩
  · have parts := Nat.div_add_mod code fractionCodes
    have inside := Nat.mod_lt code fractionCodes_pos
    obtain ⟨shift, same⟩ : ∃ shift, code / fractionCodes = shift + 1 :=
      Nat.exists_eq_succ_of_ne_zero
        (Nat.pos_iff_ne_zero.mp (Nat.div_pos later fractionCodes_pos))
    rw [same, Nat.mul_comm, Nat.succ_mul] at parts
    refine ⟨shift, fractionCodes + code % fractionCodes, ?_, ?_, .inr ?_⟩
    · omega
    · omega
    · omega

theorem units_lt_units_succ (code : Nat) : units code < units (code + 1) := by
  obtain ⟨shift, row, rfl, inside, place⟩ := exists_block code
  have next : units (shift * fractionCodes + (row + 1)) = (row + 1) * 2 ^ shift :=
    units_block (by omega) (place.imp_right fun low => by omega)
  rw [Nat.add_assoc, next]
  rw [units_block (by omega) place, Nat.succ_mul]
  exact Nat.lt_add_of_pos_right (Nat.two_pow_pos shift)

/-- Codes are ordered as their magnitudes are. -/
theorem units_strictMono : StrictMono units := strictMono_nat_of_lt_succ units_lt_units_succ

theorem units_cast_lt {first second : Nat} (less : first < second) :
    (units first : ℚ) < units second := by
  exact_mod_cast units_strictMono less

theorem units_cast_le {first second : Nat} (ordered : first ≤ second) :
    (units first : ℚ) ≤ units second := by
  exact_mod_cast units_strictMono.monotone ordered

@[simp] theorem units_zero : units 0 = 0 := rfl

theorem units_eq_zero {code : Nat} : units code = 0 ↔ code = 0 :=
  units_strictMono.injective.eq_iff' units_zero

/-! ## The nearest natural number -/

/-- A rational lies at most one half from the natural number that it is rounded
to, and exactly one half only if that number is even. -/
structure RoundsTo (quotient : ℚ) (value : Nat) : Prop where
  le_upper : 2 * quotient ≤ 2 * value + 1
  even_of_upper : 2 * quotient = 2 * value + 1 → value % 2 = 0
  lower_le : 2 * (value : ℚ) ≤ 2 * quotient + 1
  even_of_lower : 2 * (value : ℚ) = 2 * quotient + 1 → value % 2 = 0

section RoundsTo

variable {whole : Nat} {fraction : ℚ}

theorem roundsTo_whole (nonneg : 0 ≤ fraction) (less : 2 * fraction < 1) :
    RoundsTo (whole + fraction) whole := by
  constructor
  · linarith
  · intro tie
    linarith
  · linarith
  · intro tie
    linarith

theorem roundsTo_next (below_one : fraction < 1) (more : 1 < 2 * fraction) :
    RoundsTo (whole + fraction) (whole + 1) := by
  have next : ((whole + 1 : Nat) : ℚ) = whole + 1 := by push_cast; rfl
  constructor
  · linarith
  · intro tie
    linarith
  · linarith
  · intro tie
    linarith

theorem roundsTo_even (tie : 2 * fraction = 1) :
    RoundsTo (whole + fraction) (whole + whole % 2) := by
  have even : (whole + whole % 2) % 2 = 0 := by omega
  have carry : ((whole + whole % 2 : Nat) : ℚ) ≤ whole + 1 := by
    exact_mod_cast Nat.add_le_add_left (Nat.le_of_lt_succ (Nat.mod_lt whole (by decide))) whole
  have nonneg : (whole : ℚ) ≤ (whole + whole % 2 : Nat) := by
    exact_mod_cast Nat.le_add_right whole _
  constructor
  · linarith
  · intro _
    exact even
  · linarith
  · intro _
    exact even

end RoundsTo

theorem roundsTo_roundedQuotient (numerator : Nat) {denominator : Nat}
    (positive : 0 < denominator) :
    RoundsTo ((numerator : ℚ) / denominator) (roundedQuotient numerator denominator) := by
  have positive' : (0 : ℚ) < denominator := by exact_mod_cast positive
  have parts : (numerator : ℚ) / denominator
      = (numerator / denominator : Nat) + (numerator % denominator : Nat) / (denominator : ℚ) := by
    have division : (numerator : ℚ)
        = denominator * (numerator / denominator : Nat) + (numerator % denominator : Nat) := by
      exact_mod_cast (Nat.div_add_mod numerator denominator).symm
    rw [eq_comm, ← sub_eq_zero]
    field_simp
    linarith
  have twice : 2 * (((numerator % denominator : Nat) : ℚ) / denominator)
      = (2 * (numerator % denominator) : Nat) / denominator := by
    push_cast
    ring
  rw [parts]
  unfold roundedQuotient
  dsimp only
  split
  · rename_i less
    apply roundsTo_whole (by positivity)
    rw [twice, div_lt_one positive']
    exact_mod_cast less
  · split
    · rename_i more
      apply roundsTo_next
      · rw [div_lt_one positive']
        exact_mod_cast Nat.mod_lt numerator positive
      · rw [twice, one_lt_div positive']
        exact_mod_cast more
    · rename_i notLess notMore
      apply roundsTo_even
      have same : 2 * (numerator % denominator) = denominator := by omega
      rw [twice, same, div_self positive'.ne']

/-! ## The nearest code -/

/-- A code is nearest to a rational number of units if the number lies between the
points halfway to the neighbouring magnitudes; these points themselves belong to
the even code. -/
structure IsNearest (quotient : ℚ) (code : Nat) : Prop where
  le_upper : 2 * quotient ≤ units code + units (code + 1)
  even_of_upper : 2 * quotient = units code + units (code + 1) → code % 2 = 0
  lower_le : ∀ previous, previous + 1 = code → (units previous + units code : ℚ) ≤ 2 * quotient
  even_of_lower : ∀ previous, previous + 1 = code →
    (units previous + units code : ℚ) = 2 * quotient → code % 2 = 0

/-- A smaller number has no greater nearest code. -/
theorem IsNearest.mono {first second : ℚ} {firstCode secondCode : Nat}
    (nearestFirst : IsNearest first firstCode) (nearestSecond : IsNearest second secondCode)
    (ordered : first ≤ second) : firstCode ≤ secondCode := by
  by_contra reversed
  obtain ⟨previous, rfl⟩ : ∃ previous, firstCode = previous + 1 :=
    Nat.exists_eq_succ_of_ne_zero (by omega)
  have atMost : secondCode ≤ previous := by omega
  have upper := nearestSecond.le_upper
  have lower := nearestFirst.lower_le previous rfl
  have first_le : (units secondCode : ℚ) ≤ units previous := units_cast_le atMost
  have second_le : (units (secondCode + 1) : ℚ) ≤ units (previous + 1) :=
    units_cast_le (Nat.succ_le_succ atMost)
  -- Both numbers are the same halfway point, which belongs to one even code.
  have same : secondCode = previous := by
    apply units_strictMono.injective
    have : (units secondCode : ℚ) = units previous := by linarith
    exact_mod_cast this
  subst same
  have evenSecond := nearestSecond.even_of_upper (by linarith)
  have evenFirst := nearestFirst.even_of_lower secondCode rfl (by linarith)
  omega

/-- There is one nearest code. -/
theorem IsNearest.unique {quotient : ℚ} {first second : Nat}
    (nearestFirst : IsNearest quotient first) (nearestSecond : IsNearest quotient second) :
    first = second :=
  Nat.le_antisymm (nearestFirst.mono nearestSecond le_rfl) (nearestSecond.mono nearestFirst le_rfl)

/-- The magnitude after one of a block is at least one spacing away. -/
theorem le_units_succ {shift row : Nat} (high : row ≤ 2 * fractionCodes)
    (low : shift = 0 ∨ fractionCodes ≤ row) :
    (row + 1) * 2 ^ shift ≤ units (shift * fractionCodes + row + 1) := by
  rcases Nat.lt_or_eq_of_le high with inside | last
  · rw [Nat.add_assoc, units_block (Nat.succ_le_of_lt inside) (low.imp_right Nat.le_succ_of_le)]
  · have next : units ((shift + 1) * fractionCodes + (fractionCodes + 1))
        = (fractionCodes + 1) * 2 ^ (shift + 1) :=
      units_block (by decide) (.inr (Nat.le_succ _))
    have code : shift * fractionCodes + row + 1
        = (shift + 1) * fractionCodes + (fractionCodes + 1) := by
      rw [last]
      ring
    have wider : (row + 1) * 2 ^ shift + 2 ^ shift = (fractionCodes + 1) * 2 ^ (shift + 1) := by
      rw [last]
      ring
    rw [code, next, ← wider]
    exact Nat.le_add_right _ _

/-- The magnitude before one of a block is one spacing away, unless the block
begins there. -/
theorem units_of_succ_eq {shift row previous : Nat} (high : row ≤ 2 * fractionCodes)
    (low : shift = 0 ∨ fractionCodes < row)
    (same : previous + 1 = shift * fractionCodes + row) :
    units previous + 2 ^ shift = row * 2 ^ shift := by
  obtain ⟨row, rfl⟩ : ∃ before, row = before + 1 := by
    apply Nat.exists_eq_succ_of_ne_zero
    rcases low with rfl | inside
    · omega
    · omega
  have code : previous = shift * fractionCodes + row := by omega
  rw [code, units_block (Nat.le_of_succ_le high) (low.imp_right Nat.le_of_lt_succ), Nat.succ_mul]

/-- A rounded multiple of the spacing of a block is nearest if it lies in the block.
Below the first row of a later block the spacing is smaller, but no number of the
block is rounded there. -/
theorem isNearest_block {shift row : Nat} {quotient : ℚ}
    (rounds : RoundsTo (quotient / 2 ^ shift) row) (high : row ≤ 2 * fractionCodes)
    (low : shift = 0 ∨ fractionCodes ≤ row ∧ (fractionCodes * 2 ^ shift : Nat) ≤ quotient) :
    IsNearest quotient (shift * fractionCodes + row) := by
  have spacing : (0 : ℚ) < 2 ^ shift := by positivity
  have scaled : 2 * (quotient / 2 ^ shift) * 2 ^ shift = 2 * quotient := by field_simp
  have parity : (shift * fractionCodes + row) % 2 = row % 2 := by
    simp only [fractionCodes]
    omega
  have here : (units (shift * fractionCodes + row) : ℚ) = row * 2 ^ shift := by
    exact_mod_cast units_block high (low.imp_right And.left)
  have next : ((row : ℚ) + 1) * 2 ^ shift ≤ units (shift * fractionCodes + row + 1) := by
    exact_mod_cast le_units_succ high (low.imp_right And.left)
  have upper : 2 * quotient ≤ (2 * row + 1) * 2 ^ shift := by
    rw [← scaled]
    exact mul_le_mul_of_nonneg_right rounds.le_upper spacing.le
  have lower : 2 * row * 2 ^ shift ≤ 2 * quotient + 2 ^ shift := by
    have := mul_le_mul_of_nonneg_right rounds.lower_le spacing.le
    rw [add_mul, one_mul, scaled] at this
    exact this
  -- At the first row of a later block the midpoint below is not reached.
  have before : ∀ previous, previous + 1 = shift * fractionCodes + row →
      (units previous : ℚ) + 2 ^ shift = row * 2 ^ shift ∨
        (units previous : ℚ) + row * 2 ^ shift < 2 * quotient := by
    intro previous same
    by_cases border : shift = 0 ∨ fractionCodes < row
    · left
      exact_mod_cast units_of_succ_eq high border same
    · right
      obtain ⟨first, large⟩ := low.resolve_left fun zero => border (.inl zero)
      have row_eq : row = fractionCodes := by omega
      have smaller : (units previous : ℚ) < row * 2 ^ shift := by
        rw [← here, ← same]
        exact_mod_cast units_lt_units_succ previous
      rw [← row_eq] at large
      push_cast at large
      linarith
  constructor
  · rw [here]
    linarith
  · intro tie
    rw [parity]
    apply rounds.even_of_upper
    rw [here] at tie
    have : 2 * (quotient / 2 ^ shift) * 2 ^ shift = (2 * row + 1) * 2 ^ shift := by linarith
    exact mul_right_cancel₀ spacing.ne' this
  · intro previous same
    rw [here]
    rcases before previous same with inside | border
    · linarith
    · exact border.le
  · intro previous same tie
    rw [parity]
    apply rounds.even_of_lower
    rw [here] at tie
    rcases before previous same with inside | border
    · have : 2 * row * 2 ^ shift = (2 * (quotient / 2 ^ shift) + 1) * 2 ^ shift := by linarith
      exact mul_right_cancel₀ spacing.ne' this
    · exact absurd tie border.ne

theorem droppedBits_spec (quotient : Nat) :
    droppedBits quotient = 0 ∧ quotient < 2 * fractionCodes ∨
      fractionCodes * 2 ^ droppedBits quotient ≤ quotient ∧
        quotient < 2 * fractionCodes * 2 ^ droppedBits quotient := by
  unfold droppedBits
  split
  · rename_i small
    exact .inl ⟨rfl, small⟩
  · rename_i large
    have power : fractionCodes = 2 ^ 52 := by decide
    have nonzero : quotient ≠ 0 := by
      intro zero
      rw [zero] at large
      exact large (by decide)
    have bits : 53 ≤ Nat.log2 quotient := by
      rw [Nat.le_log2 nonzero]
      rw [power] at large
      omega
    obtain ⟨shift, same⟩ := Nat.exists_eq_add_of_le (Nat.le_trans (by decide : 52 ≤ 53) bits)
    have low := Nat.log2_self_le nonzero
    have high := Nat.lt_log2_self (n := quotient)
    rw [same, Nat.add_sub_cancel_left, power]
    rw [same] at low high
    refine .inr ⟨?_, ?_⟩
    · rw [← Nat.pow_add]
      exact low
    · have width : 2 * 2 ^ 52 * 2 ^ shift = 2 ^ (52 + shift + 1) := by
        rw [Nat.pow_succ, Nat.pow_add]
        ring
      rw [width]
      exact high

theorem roundedQuotient_bounds (numerator denominator : Nat) :
    numerator / denominator ≤ roundedQuotient numerator denominator ∧
      roundedQuotient numerator denominator ≤ numerator / denominator + 1 := by
  unfold roundedQuotient
  dsimp only
  split
  · omega
  · split
    · omega
    · omega

/-- **The rounding finds the nearest code.** -/
theorem isNearest_nearestCode (numerator : Nat) {denominator : Nat}
    (positive : 0 < denominator) :
    IsNearest ((numerator : ℚ) / denominator) (nearestCode numerator denominator) := by
  have range := droppedBits_spec (numerator / denominator)
  unfold nearestCode
  dsimp only
  generalize droppedBits (numerator / denominator) = shift at range ⊢
  have power : 0 < 2 ^ shift := Nat.two_pow_pos shift
  have bounds := roundedQuotient_bounds numerator (denominator * 2 ^ shift)
  have rounds := roundsTo_roundedQuotient numerator (Nat.mul_pos positive power)
  have dropped : numerator / (denominator * 2 ^ shift) = numerator / denominator / 2 ^ shift :=
    (Nat.div_div_eq_div_mul _ _ _).symm
  have below : numerator / denominator / 2 ^ shift < 2 * fractionCodes := by
    rw [Nat.div_lt_iff_lt_mul power]
    rcases range with ⟨rfl, small⟩ | ⟨_, small⟩
    · rw [Nat.pow_zero, Nat.mul_one]
      exact small
    · exact small
  have quotient : (numerator : ℚ) / denominator / 2 ^ shift
      = numerator / (denominator * 2 ^ shift : Nat) := by
    push_cast
    rw [div_div]
  rw [dropped] at bounds
  rw [Nat.pow_eq]
  apply isNearest_block
  · rw [quotient]
    exact rounds
  · omega
  · rcases range with ⟨rfl, _⟩ | ⟨large, _⟩
    · exact .inl rfl
    · refine .inr ⟨?_, ?_⟩
      · have := (Nat.le_div_iff_mul_le power).mpr large
        omega
      · have floor : ((numerator / denominator : Nat) : ℚ) ≤ (numerator : ℚ) / denominator :=
          Nat.cast_div_le
        exact le_trans (by exact_mod_cast large) floor

/-- A magnitude is nearest to itself. -/
theorem isNearest_units (code : Nat) : IsNearest (units code) code := by
  have next : (units code : ℚ) < units (code + 1) := units_cast_lt (Nat.lt_succ_self code)
  have before : ∀ previous, previous + 1 = code → (units previous : ℚ) < units code := by
    rintro previous rfl
    exact units_cast_lt (Nat.lt_succ_self previous)
  constructor
  · linarith
  · intro tie
    linarith
  · intro previous same
    have := before previous same
    linarith
  · intro previous same tie
    have := before previous same
    linarith

/-- **Rounding is monotone.** -/
theorem nearestCode_le_nearestCode {numerator numerator' denominator denominator' : Nat}
    (positive : 0 < denominator) (positive' : 0 < denominator')
    (ordered : (numerator : ℚ) / denominator ≤ (numerator' : ℚ) / denominator') :
    nearestCode numerator denominator ≤ nearestCode numerator' denominator' :=
  (isNearest_nearestCode numerator positive).mono (isNearest_nearestCode numerator' positive')
    ordered

/-- Rounding depends on the rational number alone. -/
theorem nearestCode_congr {numerator numerator' denominator denominator' : Nat}
    (positive : 0 < denominator) (positive' : 0 < denominator')
    (same : (numerator : ℚ) / denominator = (numerator' : ℚ) / denominator') :
    nearestCode numerator denominator = nearestCode numerator' denominator' :=
  Nat.le_antisymm (nearestCode_le_nearestCode positive positive' same.le)
    (nearestCode_le_nearestCode positive' positive same.ge)

/-- **A magnitude is its own rounding.** -/
theorem nearestCode_units (code : Nat) {denominator : Nat} (positive : 0 < denominator) :
    nearestCode (units code * denominator) denominator = code := by
  have nearest := isNearest_nearestCode (units code * denominator) positive
  have nonzero : (denominator : ℚ) ≠ 0 := by exact_mod_cast positive.ne'
  rw [Nat.cast_mul, mul_div_cancel_right₀ _ nonzero] at nearest
  exact nearest.unique (isNearest_units code)

namespace Binary64

theorem nearest_eq_finite {negative : Bool} {numerator denominator : Nat}
    {code : Fin finiteCodes} (nearest : nearestCode numerator denominator = code) :
    Binary64.nearest negative numerator denominator = finite negative code := by
  unfold Binary64.nearest
  simp only [nearest, code.isLt, dif_pos]

/-- A magnitude rounds to itself. -/
theorem nearest_units (negative : Bool) (code : Fin finiteCodes) {denominator : Nat}
    (positive : 0 < denominator) :
    nearest negative (units code * denominator) denominator = finite negative code :=
  nearest_eq_finite (nearestCode_units code positive)

/-- Nothing rounds to zero. -/
theorem nearest_zero (negative : Bool) {denominator : Nat} (positive : 0 < denominator) :
    nearest negative 0 denominator = zero negative := by
  have exact := nearestCode_units 0 positive
  rw [units_zero, Nat.zero_mul] at exact
  exact nearest_eq_finite exact

end Binary64

end PocketCalculator
