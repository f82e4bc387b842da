import PocketCalculator.Display.State
import PocketCalculator.Proofs.Number.ExponentLayout

/-!
# The letters of results

A numeral has one letter at most, the one before its power of ten
(`Numeral.eq_of_mem_toChars`).  **No result is shown as the word for an error**
(`resultText_ne_errorText`), and **a result has a small letter exactly if it is not
written out** (`exists_letter_iff`): the letter of a power of ten, or one of the
words for the numbers that are not finite.
-/

set_option autoImplicit false

namespace PocketCalculator

/-! ## Numerals -/

namespace Numeral

/-- The characters of a numeral. -/
theorem eq_of_mem_toChars {numeral : Numeral} {c : Char} (member : c ∈ numeral.toChars) :
    (∃ digit, Digit.toChar digit = c) ∨ c = '-' ∨ c = '.' ∨
      numeral.exponent ≠ none ∧ (c = 'e' ∨ c = '+') := by
  rw [toChars, List.mem_append, List.mem_append, List.mem_append] at member
  rcases member with ((sign | whole) | fraction) | exponent
  · split at sign
    · exact .inr (.inl (List.mem_singleton.mp sign))
    · contradiction
  · obtain ⟨digit, _, same⟩ := List.mem_map.mp whole
    exact .inl ⟨digit, same⟩
  · split at fraction
    · contradiction
    · rcases List.mem_cons.mp fraction with point | digits
      · exact .inr (.inr (.inl point))
      · obtain ⟨digit, _, same⟩ := List.mem_map.mp digits
        exact .inl ⟨digit, same⟩
  · cases written : numeral.exponent with
    | none =>
        rw [written] at exponent
        contradiction
    | some power =>
        rw [written] at exponent
        have some_power : some power ≠ none := Option.some_ne_none power
        rcases List.mem_cons.mp exponent with letter | signed
        · exact .inr (.inr (.inr ⟨some_power, .inl letter⟩))
        · rcases List.mem_cons.mp signed with sign | digits
          · split at sign
            · exact .inr (.inl sign)
            · exact .inr (.inr (.inr ⟨some_power, .inr sign⟩))
          · obtain ⟨digit, _, same⟩ := List.mem_map.mp digits
            exact .inl ⟨digit, same⟩

theorem letter_mem_toChars {numeral : Numeral} (power : numeral.exponent ≠ none) :
    'e' ∈ numeral.toChars := by
  obtain ⟨exponent, written⟩ := Option.ne_none_iff_exists'.mp power
  rw [toChars, written]
  exact List.mem_append_right _ List.mem_cons_self

end Numeral

theorem Digit.isLower_toChar (digit : Digit) : (Digit.toChar digit).isLower = false := by
  revert digit
  decide

/-! ## Results -/

/-- No result has the last letter of the word for an error. -/
theorem letter_notMem_resultText (value : Binary64) : 'r' ∉ (resultText value).toList := by
  cases value with
  | nan => decide
  | infinite negative => cases negative <;> decide
  | finite negative code =>
      rw [resultText, Numeral.text, String.toList_ofList]
      intro letter
      rcases Numeral.eq_of_mem_toChars letter with
        ⟨digit, same⟩ | minus | point | ⟨_, exponent | plus⟩
      · have lower := Digit.isLower_toChar digit
        rw [same] at lower
        exact absurd lower (by decide)
      · exact absurd minus (by decide)
      · exact absurd point (by decide)
      · exact absurd exponent (by decide)
      · exact absurd plus (by decide)

/-- **No result is shown as the word for an error.** -/
theorem resultText_ne_errorText (value : Binary64) : resultText value ≠ errorText := by
  intro same
  have letter : 'r' ∈ errorText.toList := by decide
  rw [← same] at letter
  exact letter_notMem_resultText value letter

/-- A numeral has a small letter exactly if a power of ten is written. -/
theorem exists_letter_numeral_iff (numeral : Numeral) :
    (∃ c ∈ numeral.text.toList, c.isLower = true) ↔ numeral.exponent ≠ none := by
  rw [Numeral.text, String.toList_ofList]
  constructor
  · rintro ⟨c, member, lower⟩
    rcases Numeral.eq_of_mem_toChars member with
      ⟨digit, rfl⟩ | rfl | rfl | ⟨power, _⟩
    · rw [Digit.isLower_toChar] at lower
      contradiction
    · exact absurd lower (by decide)
    · exact absurd lower (by decide)
    · exact power
  · intro power
    exact ⟨'e', Numeral.letter_mem_toChars power, by decide⟩

/-- Of the finite numbers those that are written out have no power of ten. -/
theorem exponent_numeral_eq_none_iff (negative : Bool) (code : Fin finiteCodes) :
    (displayLayout.numeral negative code).exponent = none ↔
      ShownPlain (.finite negative code) := by
  rw [shownPlain_finite]
  constructor
  · intro none
    by_contra outside
    rw [not_or, not_and_or, Nat.not_le, Nat.not_lt] at outside
    rw [numeral_of_not_range outside.1 negative outside.2] at none
    exact Option.some_ne_none _ none
  · rintro (zero | ⟨low, high⟩)
    · rw [Layout.numeral, if_pos zero]
    · obtain ⟨whole, fraction, _, numeral, _⟩ := numeral_of_range negative low high
      rw [numeral]

/-- **A result has a small letter exactly if it is not written out.** -/
theorem exists_letter_iff (value : Binary64) :
    (∃ c ∈ (resultText value).toList, c.isLower = true) ↔ ¬ ShownPlain value := by
  cases value with
  | nan => exact iff_of_true ⟨'a', by decide⟩ (by decide)
  | infinite negative => cases negative <;> exact iff_of_true ⟨'n', by decide⟩ (by decide)
  | finite negative code =>
      rw [resultText, exists_letter_numeral_iff, ne_eq, exponent_numeral_eq_none_iff]

end PocketCalculator
