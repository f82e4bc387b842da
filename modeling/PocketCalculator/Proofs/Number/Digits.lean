import Mathlib.Data.List.Induction
import Mathlib.Tactic.Positivity
import Mathlib.Tactic.Ring
import PocketCalculator.Number.Numeral

/-!
# Rows of digits

A row of digits denotes a number in the usual way: it is made up of the numbers of its
parts (`Digits.value_append`), and rows of one length are told apart by it
(`Digits.eq_of_value_eq`).  The digits of a number (`Digits.ofNat`) are as many as its
size asks for, start with zero only if it is zero, and end with its remainder by ten.
**They are the only row without a superfluous zero in front that denotes it**
(`Digits.ofNat_value`).
-/

set_option autoImplicit false

namespace PocketCalculator
namespace Digits

/-! ## The number of a row -/

theorem value_append (front back : Digits) :
    value (front ++ back) = value front * 10 ^ back.length + value back := by
  induction back using List.reverseRecOn with
  | nil => simp [value]
  | append_singleton back digit ih =>
      rw [← List.append_assoc, value_append_singleton, value_append_singleton, ih,
        List.length_append, List.length_singleton, Nat.pow_succ]
      ring

theorem value_lt (digits : Digits) : value digits < 10 ^ digits.length := by
  induction digits using List.reverseRecOn with
  | nil => exact Nat.one_pos
  | append_singleton digits digit ih =>
      have small := digit.isLt
      rw [value_append_singleton, List.length_append, List.length_singleton, Nat.pow_succ]
      omega

@[simp] theorem value_replicate_zero (count : Nat) : value (List.replicate count 0) = 0 := by
  induction count with
  | zero => rfl
  | succ count ih =>
      rw [List.replicate_succ', value_append_singleton, ih]
      rfl

/-- The digits before the last ones denote the quotient, and the last ones the remainder. -/
theorem value_append_div (front back : Digits) :
    value (front ++ back) / 10 ^ back.length = value front := by
  rw [value_append, Nat.add_comm, Nat.add_mul_div_right _ _ (Nat.pow_pos (by decide)),
    Nat.div_eq_of_lt (value_lt back), Nat.zero_add]

theorem value_append_mod (front back : Digits) :
    value (front ++ back) % 10 ^ back.length = value back := by
  rw [value_append, Nat.mul_add_mod_self_right, Nat.mod_eq_of_lt (value_lt back)]

/-- Rows of the same length that denote the same number are the same. -/
theorem eq_of_value_eq {first second : Digits} (length : first.length = second.length)
    (same : first.value = second.value) : first = second := by
  induction first using List.reverseRecOn generalizing second with
  | nil => exact (List.eq_nil_of_length_eq_zero length.symm).symm
  | append_singleton front digit ih =>
      obtain ⟨others, last, rfl⟩ : ∃ others last, second = others ++ [last] := by
        rcases List.eq_nil_or_concat second with empty | ⟨others, last, parts⟩
        · rw [empty] at length
          simp at length
        · exact ⟨others, last, by rw [parts, List.concat_eq_append]⟩
      rw [value_append_singleton, value_append_singleton] at same
      have inside := digit.isLt
      have lastInside := last.isLt
      rw [List.length_append, List.length_append] at length
      rw [ih (by simpa using length) (by omega), Fin.ext (by omega : digit.val = last.val)]

/-! ## The digits of a number -/

/-- Ten times a number has one zero more. -/
theorem ofNat_ten_mul {n : Nat} (positive : 0 < n) : ofNat (n * 10) = ofNat n ++ [0] := by
  rw [ofNat, dif_neg (by omega), Nat.mul_div_cancel n (by decide)]
  congr 2
  exact Fin.ext (Nat.mul_mod_left n 10)

theorem ofNat_mul_pow {n : Nat} (positive : 0 < n) (places : Nat) :
    ofNat (n * 10 ^ places) = ofNat n ++ List.replicate places 0 := by
  induction places with
  | zero => simp
  | succ places ih =>
      rw [Nat.pow_succ, ← Nat.mul_assoc, ofNat_ten_mul (by positivity), ih, List.append_assoc,
        ← List.replicate_succ']

theorem length_ofNat_pos (n : Nat) : 0 < (ofNat n).length :=
  List.length_pos_iff.mpr (ofNat_ne_nil n)

/-- The first digit of a positive number is not zero. -/
theorem pow_length_le {n : Nat} (positive : 0 < n) : 10 ^ (ofNat n).length ≤ n * 10 := by
  induction n using Nat.strongRecOn with
  | _ n ih =>
      rw [ofNat]
      split
      · rw [List.length_singleton]
        omega
      · have shorter := ih (n / 10) (by omega) (by omega)
        rw [List.length_append, List.length_singleton, Nat.pow_succ]
        omega

theorem lt_pow_length (n : Nat) : n < 10 ^ (ofNat n).length := by
  have := value_lt (ofNat n)
  rwa [value_ofNat] at this

/-- A positive number below a power of ten has no more digits than the power. -/
theorem length_ofNat_le {n count : Nat} (positive : 0 < n) (small : n < 10 ^ count) :
    (ofNat n).length ≤ count := by
  have bound : 10 ^ (ofNat n).length < 10 ^ (count + 1) := by
    calc 10 ^ (ofNat n).length ≤ n * 10 := pow_length_le positive
      _ < 10 ^ count * 10 := Nat.mul_lt_mul_of_pos_right small (by decide)
  exact Nat.le_of_lt_succ ((Nat.pow_lt_pow_iff_right (by decide)).mp bound)

/-- The digits of a number start with zero only if it is zero. -/
theorem ofNat_ne_zero_cons (n : Nat) (digit : Digit) (rest : Digits) :
    ofNat n ≠ 0 :: digit :: rest := by
  induction n using Nat.strongRecOn generalizing digit rest with
  | _ n ih =>
      rw [ofNat]
      split
      case isTrue => simp
      case isFalse large =>
        intro same
        rcases front : ofNat (n / 10) with _ | ⟨first, _ | ⟨second, others⟩⟩
        · exact ofNat_ne_nil _ front
        · -- A single digit is the number itself, which is not zero here.
          have value := value_ofNat (n / 10)
          rw [front] at value same
          obtain ⟨rfl, -⟩ := List.cons.inj same
          have zero : n / 10 = 0 := value.symm
          omega
        · rw [front] at same
          obtain ⟨rfl, -⟩ := List.cons.inj same
          exact ih (n / 10) (by omega) second others front

theorem getLast?_ofNat (n : Nat) :
    (ofNat n).getLast? = some ⟨n % 10, Nat.mod_lt n (by decide)⟩ := by
  rw [ofNat]
  split
  · rename_i small
    rw [List.getLast?_singleton]
    exact congrArg some (Fin.ext (Nat.mod_eq_of_lt small).symm)
  · rw [List.getLast?_concat]

theorem head?_ofNat_ne_zero {n : Nat} (nonzero : n ≠ 0) : (ofNat n).head? ≠ some 0 := by
  intro zero
  obtain ⟨rest, digits⟩ : ∃ rest, ofNat n = 0 :: rest := by
    cases parts : ofNat n with
    | nil => exact absurd parts (ofNat_ne_nil n)
    | cons first rest =>
        rw [parts, List.head?_cons] at zero
        exact ⟨rest, congrArg (· :: rest) (Option.some.inj zero)⟩
  cases rest with
  | nil =>
      have value := value_ofNat n
      rw [digits] at value
      exact nonzero value.symm
  | cons second rest => exact ofNat_ne_zero_cons n second rest digits

/-- Digits without a superfluous zero in front are those of their number. -/
theorem ofNat_value {digits : Digits} (nonempty : digits ≠ [])
    (noLeadingZero : ∀ digit rest, digits ≠ 0 :: digit :: rest) : ofNat digits.value = digits := by
  induction digits using List.reverseRecOn with
  | nil => exact absurd rfl nonempty
  | append_singleton front digit ih =>
      have inside := digit.isLt
      rw [value_append_singleton]
      cases front with
      | nil =>
          have single : 10 * value [] + digit.val = digit.val := Nat.zero_add _
          rw [single, ofNat, dif_pos inside]
          rfl
      | cons first rest =>
          have digits : ofNat (value (first :: rest)) = first :: rest := by
            apply ih (List.cons_ne_nil _ _)
            intro second others same
            rw [same] at noLeadingZero
            exact noLeadingZero _ _ rfl
          have positive : value (first :: rest) ≠ 0 := by
            intro zero
            have alone : ofNat 0 = [0] := by rw [ofNat, dif_pos (by decide)]; rfl
            rw [zero, alone] at digits
            rw [← digits] at noLeadingZero
            exact noLeadingZero digit [] rfl
          have quotient :
              (10 * value (first :: rest) + digit.val) / 10 = value (first :: rest) := by
            omega
          have remainder : (10 * value (first :: rest) + digit.val) % 10 = digit.val := by
            omega
          rw [ofNat, dif_neg (by omega)]
          simp only [quotient, remainder, digits]

/-! ## Line breaks -/

theorem newline_notMem_toChars (digits : Digits) : '\n' ∉ digits.toChars := by
  have noBreak : ∀ digit : Digit, digit.toChar ≠ '\n' := by decide
  intro mem
  obtain ⟨digit, -, same⟩ := List.mem_map.mp mem
  exact noBreak digit same

end Digits

theorem newline_notMem_decimalText (n : Nat) : '\n' ∉ (decimalText n).toList := by
  rw [decimalText, String.toList_ofList]
  exact Digits.newline_notMem_toChars _

theorem Numeral.newline_notMem_toChars (numeral : Numeral) : '\n' ∉ numeral.toChars := by
  have whole := Digits.newline_notMem_toChars
  cases exponent : numeral.exponent with
  | none => simp [toChars, exponent, whole]
  | some power =>
      have sign : '\n' ≠ if power.negative then '-' else '+' := by
        cases power.negative <;> decide
      simp [toChars, Exponent.toChars, exponent, whole, sign]

end PocketCalculator
