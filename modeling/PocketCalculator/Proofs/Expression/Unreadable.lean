import PocketCalculator.Proofs.Expression.LeftToRight
import PocketCalculator.Proofs.Expression.PositionalMeaning

/-!
# Texts with nothing to read

Whether a lexeme starts at a place of a text is decided by few characters: a digit or one of
the signs of the operators, or the three letters of the remainder (`startsLexeme_cons_iff`).
A longer lexeme takes no token away from the text around it, because a text has no token
exactly if no lexeme starts anywhere in it (`ofChars_eq_nil_iff`).

**An expression is invalid exactly if there is nothing to read in it**
(`evaluate_eq_invalidExpression_iff`): no digit, no sign of an operator and nowhere the three
letters in a row (`Unreadable`).  A minus sign at the front, which is read after a zero, is a
sign of an operator itself.
-/

set_option autoImplicit false

namespace PocketCalculator

theorem Digit.isDigit_toChar (digit : Digit) : (Digit.toChar digit).isDigit = true := by
  revert digit
  decide

/-- Every ASCII digit writes a digit. -/
theorem Digit.exists_toChar_eq {c : Char} (ascii : c.isDigit = true) :
    ∃ digit : Digit, Digit.toChar digit = c := by
  have bounds : 48 ≤ c.toNat ∧ c.toNat ≤ 57 := by
    simpa [Char.isDigit, UInt32.le_iff_toNat_le] using ascii
  refine ⟨⟨c.toNat - 48, by omega⟩, ?_⟩
  rw [Digit.toChar, Nat.add_sub_cancel' bounds.1, Char.ofNat_toNat]

namespace Token

/-! ## Where a lexeme starts -/

/-- The operators that are written by one character. -/
def signs : List Char := ['+', '-', '*', '/']

/-- The operator that is written by letters. -/
def letters : List Char := ['M', 'O', 'D']

theorem startsLexeme_of_isDigit {c : Char} (digit : c.isDigit = true) (rest : List Char) :
    StartsLexeme (c :: rest) := by
  obtain ⟨value, rfl⟩ := Digit.exists_toChar_eq digit
  exact ⟨_, _, rest, .number [value] (List.cons_ne_nil _ _) .absent .absent, rfl⟩

theorem startsLexeme_of_mem_signs {c : Char} (sign : c ∈ signs) (rest : List Char) :
    StartsLexeme (c :: rest) := by
  simp only [signs, List.mem_cons, List.not_mem_nil, or_false] at sign
  rcases sign with rfl | rfl | rfl | rfl
  · exact ⟨_, _, rest, .operator .add, rfl⟩
  · exact ⟨_, _, rest, .operator .subtract, rfl⟩
  · exact ⟨_, _, rest, .operator .multiply, rfl⟩
  · exact ⟨_, _, rest, .operator .divide, rfl⟩

theorem startsLexeme_of_letters {text : List Char} (front : letters <+: text) :
    StartsLexeme text := by
  obtain ⟨rest, rfl⟩ := front
  exact ⟨_, _, rest, .operator .modulo, rfl⟩

/-- **A lexeme starts at a digit, at a sign and at the letters, and nowhere else.** -/
theorem startsLexeme_cons_iff {c : Char} {rest : List Char} :
    StartsLexeme (c :: rest) ↔ c.isDigit = true ∨ c ∈ signs ∨ letters <+: c :: rest := by
  constructor
  · rintro ⟨lexeme, token, after, written, split⟩
    cases written with
    | number whole nonempty fractional marked =>
        obtain ⟨digit, others, rfl⟩ := List.exists_cons_of_ne_nil nonempty
        obtain ⟨rfl, _⟩ := List.cons.inj split
        exact .inl digit.isDigit_toChar
    | operator operator =>
        cases operator with
        | modulo => exact .inr (.inr ⟨after, split.symm⟩)
        | _ =>
            obtain ⟨rfl, _⟩ := List.cons.inj split
            exact .inr (.inl (by decide))
  · rintro (digit | sign | front)
    · exact startsLexeme_of_isDigit digit rest
    · exact startsLexeme_of_mem_signs sign rest
    · exact startsLexeme_of_letters front

/-! ## Texts without a lexeme -/

/-- A text in which nothing can be read: it has no ASCII digit, none of the characters that
write an operator alone, and nowhere the letters of the remainder in a row. -/
structure Unreadable (text : List Char) : Prop where
  noDigit : ∀ c ∈ text, c.isDigit = false
  noSign : ∀ c ∈ text, c ∉ signs
  noLetters : ¬ letters <:+: text

theorem unreadable_nil : Unreadable [] where
  noDigit _ member := absurd member List.not_mem_nil
  noSign _ member := absurd member List.not_mem_nil
  noLetters inside := List.cons_ne_nil _ _ (List.infix_nil.mp inside)

/-- Nothing can be read in a text if no lexeme starts at its front and nothing can be read
after its first character. -/
theorem unreadable_cons_iff {c : Char} {rest : List Char} :
    Unreadable (c :: rest) ↔ ¬ StartsLexeme (c :: rest) ∧ Unreadable rest := by
  rw [startsLexeme_cons_iff, not_or, not_or, Bool.not_eq_true]
  constructor
  · rintro ⟨noDigit, noSign, noLetters⟩
    rw [List.forall_mem_cons] at noDigit noSign
    rw [List.infix_cons_iff, not_or] at noLetters
    exact ⟨⟨noDigit.1, noSign.1, noLetters.1⟩, noDigit.2, noSign.2, noLetters.2⟩
  · rintro ⟨⟨digit, sign, front⟩, noDigit, noSign, noLetters⟩
    refine ⟨List.forall_mem_cons.mpr ⟨digit, noDigit⟩, List.forall_mem_cons.mpr ⟨sign, noSign⟩, ?_⟩
    rw [List.infix_cons_iff, not_or]
    exact ⟨front, noLetters⟩

/-- A text is one gap if nothing can be read in it. -/
theorem silentGap_iff_unreadable (text : List Char) : SilentGap text [] ↔ Unreadable text := by
  induction text with
  | nil => exact iff_of_true (silentGap_nil []) unreadable_nil
  | cons c rest ih => rw [silentGap_cons, unreadable_cons_iff, ih, List.append_nil]

/-- **A text has no token exactly if nothing can be read in it.** -/
theorem ofChars_eq_nil_iff (text : List Char) : ofChars text = [] ↔ Unreadable text := by
  rw [ofChars, List.map_eq_nil_iff, eq_comm, ← division_iff_scan, ← silentGap_iff_unreadable]
  constructor
  · intro division
    cases division with
    | finish gap silent => exact silent
  · exact .finish text

end Token

namespace Evaluation

open Token (Unreadable ofChars)

/-! ## Invalid expressions -/

theorem evaluateTokens_eq_invalidExpression_iff {tokens : List Token} :
    evaluateTokens tokens = .error .invalidExpression ↔ tokens = [] := by
  rw [evaluateTokens_eq_iff]
  constructor
  · intro meaning
    cases meaning with
    | empty noToken => exact noToken
  · exact .empty

/-- The zero before a minus sign at the front is read only where there is a token. -/
theorem ofChars_readable_eq_nil_iff (text : List Char) :
    ofChars (readable text) = [] ↔ ofChars text = [] := by
  by_cases minus : ∃ rest, text = '-' :: rest
  · obtain ⟨rest, rfl⟩ := minus
    have sign : ofChars ('-' :: rest) = .operator .subtract :: ofChars rest :=
      Token.ofChars_symbolChars_append .subtract rest
    rw [ofChars_readable_minus, sign]
    exact iff_of_false (List.cons_ne_nil _ _) (List.cons_ne_nil _ _)
  · rw [readable_of_ne_minus fun rest same => minus ⟨rest, same⟩]

/-- **An expression is invalid exactly if there is nothing to read in it**: no ASCII digit, no
sign of an operator, and nowhere the letters of the remainder in a row.  Every other text has
a value or fails for a missing operator or a division by zero. -/
theorem evaluate_eq_invalidExpression_iff (text : String) :
    (evaluate text = .error .invalidExpression ↔ Unreadable text.toList) ∧
    (¬ Unreadable text.toList →
      (∃ value, evaluate text = .ok value) ∨ evaluate text = .error .missingOperator ∨
        evaluate text = .error .divisionByZero) := by
  have invalid : evaluate text = .error .invalidExpression ↔ Unreadable text.toList := by
    rw [evaluate, evaluateTokens_eq_invalidExpression_iff, ofChars_readable_eq_nil_iff,
      Token.ofChars_eq_nil_iff]
  refine ⟨invalid, fun readable => ?_⟩
  rw [← invalid] at readable
  cases outcome : evaluate text with
  | ok value => exact .inl ⟨value, rfl⟩
  | error failure =>
      cases failure with
      | invalidExpression => exact absurd outcome readable
      | missingOperator => exact .inr (.inl rfl)
      | divisionByZero => exact .inr (.inr rfl)

end Evaluation
end PocketCalculator
