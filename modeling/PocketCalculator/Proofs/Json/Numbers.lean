import PocketCalculator.Json.Number
import PocketCalculator.Json.Reader
import PocketCalculator.Proofs.Expression.Lexeme
import PocketCalculator.Proofs.Number.Digits

/-!
# Numerals in JSON

The format refuses leading zeros and an exponent without digits; every other numeral is
proper (`Numeral.Proper`), as is that of every natural number (`Numeral.proper_ofNat`).
**A proper numeral is read back** as it was written (`Json.number?_written`) in front of any
text that does not go on with a digit, a point or the mark of an exponent.
-/

set_option autoImplicit false

namespace PocketCalculator

/-- A numeral that the format allows: its whole digits are zero alone or do not start with
it, and its exponent has digits. -/
structure Numeral.Proper (numeral : Numeral) : Prop where
  nonempty : numeral.whole ≠ []
  noLeadingZero : ∀ digit rest, numeral.whole ≠ 0 :: digit :: rest
  exponent : ∀ exponent, numeral.exponent = some exponent → exponent.digits ≠ []

/-- A row of digits is read whole if no digit follows it. -/
theorem Digits.run_toChars (digits : Digits) {rest : List Char}
    (noDigit : startsWithDigit rest = false) : run (digits.toChars ++ rest) = (digits, rest) := by
  rw [run_toChars_append, run_of_not_startsWithDigit noDigit, List.append_nil]

theorem Numeral.proper_ofNat (n : Nat) : (ofNat n).Proper where
  nonempty := Digits.ofNat_ne_nil n
  noLeadingZero := Digits.ofNat_ne_zero_cons n
  exponent := nofun

namespace Json

/-! ## The parts of a numeral -/

/-- Whether a text does not continue a numeral. -/
def endsNumeral : List Char → Bool
  | [] => true
  | c :: _ => !(Digit.ofChar? c).isSome && c != '.' && c != 'e' && c != 'E'

section parts

variable {rest : List Char}

theorem startsWithDigit_of_endsNumeral (ends : endsNumeral rest = true) :
    Digits.startsWithDigit rest = false := by
  cases rest with
  | nil => rfl
  | cons c rest =>
      simp only [endsNumeral, Bool.and_eq_true, Bool.not_eq_true'] at ends
      exact ends.1.1.1

theorem fractionDigits?_of_ne_point (noPoint : ∀ after, rest ≠ '.' :: after) :
    fractionDigits? rest = some ([], rest) := by
  rw [fractionDigits?]
  exact noPoint

theorem exponent?_of_endsNumeral (ends : endsNumeral rest = true) :
    exponent? rest = some (none, rest) := by
  rw [exponent?]
  all_goals
    rintro after rfl
    exact nomatch ends

theorem ne_point_of_endsNumeral (ends : endsNumeral rest = true) (after : List Char) :
    rest ≠ '.' :: after := by
  rintro rfl
  exact nomatch ends

theorem wholeDigits?_written {numeral : Numeral} (proper : numeral.Proper)
    (noDigit : Digits.startsWithDigit rest = false) :
    wholeDigits? (numeral.whole.toChars ++ rest) = some (numeral.whole, rest) := by
  rw [wholeDigits?, Digits.run_toChars _ noDigit]
  split
  case h_1 same => exact absurd (Prod.mk.inj same).1 proper.nonempty
  case h_2 same => exact absurd (Prod.mk.inj same).1 (proper.noLeadingZero _ _)
  case h_3 same =>
    obtain ⟨rfl, rfl⟩ := Prod.mk.inj same
    rfl

theorem fractionDigits?_written (fraction : Digits)
    (noDigit : Digits.startsWithDigit rest = false) (noPoint : ∀ after, rest ≠ '.' :: after) :
    fractionDigits? ((if fraction.isEmpty then [] else '.' :: fraction.toChars) ++ rest)
      = some (fraction, rest) := by
  match fraction with
  | [] => exact fractionDigits?_of_ne_point noPoint
  | digit :: others =>
      show fractionDigits? ('.' :: (Digits.toChars (digit :: others) ++ rest)) = _
      rw [fractionDigits?, Digits.run_toChars _ noDigit]

theorem signedDigits?_written {exponent : Exponent} (nonempty : exponent.digits ≠ [])
    (noDigit : Digits.startsWithDigit rest = false) :
    signedDigits? ((if exponent.negative then '-' else '+') :: (exponent.digits.toChars ++ rest))
      = some (exponent, rest) := by
  have sign : exponentSign
      ((if exponent.negative then '-' else '+') :: (exponent.digits.toChars ++ rest))
        = (exponent.negative, exponent.digits.toChars ++ rest) := by
    cases exponent.negative <;> rfl
  rw [signedDigits?, sign]
  dsimp only
  rw [Digits.run_toChars _ noDigit]
  split
  case h_1 same => exact absurd (Prod.mk.inj same).1 nonempty
  case h_2 same =>
    obtain ⟨rfl, rfl⟩ := Prod.mk.inj same
    rfl

theorem exponent?_written {exponent : Option Exponent}
    (nonempty : ∀ written, exponent = some written → written.digits ≠ [])
    (ends : endsNumeral rest = true) :
    exponent? ((exponent.map Exponent.toChars).getD [] ++ rest) = some (exponent, rest) := by
  match exponent with
  | none => exact exponent?_of_endsNumeral ends
  | some exponent =>
      show exponent? ('e' ::
        (if exponent.negative then '-' else '+') :: (exponent.digits.toChars ++ rest)) = _
      rw [exponent?, signedDigits?_written (nonempty exponent rfl)
        (startsWithDigit_of_endsNumeral ends)]
      rfl

/-- Neither a digit nor a point stands between the fraction and what follows it. -/
theorem exponentChars_stop (exponent : Option Exponent) (ends : endsNumeral rest = true) :
    Digits.startsWithDigit ((exponent.map Exponent.toChars).getD [] ++ rest) = false ∧
      ∀ after, (exponent.map Exponent.toChars).getD [] ++ rest ≠ '.' :: after := by
  match exponent with
  | none => exact ⟨startsWithDigit_of_endsNumeral ends, ne_point_of_endsNumeral ends⟩
  | some exponent => exact ⟨rfl, fun after same => nomatch (List.cons.inj same).1⟩

theorem startsWithDigit_fractionChars (fraction : Digits)
    (noDigit : Digits.startsWithDigit rest = false) :
    Digits.startsWithDigit ((if fraction.isEmpty then [] else '.' :: fraction.toChars) ++ rest)
      = false := by
  match fraction with
  | [] => exact noDigit
  | digit :: others => rfl

/-! ## Whole numerals -/

theorem unsigned?_written {numeral : Numeral} (proper : numeral.Proper)
    (ends : endsNumeral rest = true) :
    unsigned? numeral.negative (numeral.whole.toChars ++
        ((if numeral.fraction.isEmpty then [] else '.' :: numeral.fraction.toChars) ++
          ((numeral.exponent.map Exponent.toChars).getD [] ++ rest))) = some (numeral, rest) := by
  obtain ⟨noDigit, noPoint⟩ := exponentChars_stop numeral.exponent ends
  have whole := wholeDigits?_written proper
    (startsWithDigit_fractionChars numeral.fraction noDigit)
  have fraction := fractionDigits?_written numeral.fraction noDigit noPoint
  have exponent := exponent?_written proper.exponent ends
  simp only [unsigned?, whole, fraction, exponent, Option.bind_eq_bind, Option.bind_some]
  rfl

theorem number?_of_ne_minus {text : List Char} (noMinus : ∀ rest, text ≠ '-' :: rest) :
    number? text = unsigned? false text := by
  rw [number?]
  exact noMinus

/-- **A proper numeral is read back**, in front of a text that does not continue it. -/
theorem number?_written {numeral : Numeral} (proper : numeral.Proper)
    (ends : endsNumeral rest = true) :
    number? (numeral.toChars ++ rest) = some (numeral, rest) := by
  have written := unsigned?_written proper ends
  rw [Numeral.toChars, List.append_assoc, List.append_assoc, List.append_assoc]
  cases sign : numeral.negative with
  | true =>
      rw [sign] at written
      exact written
  | false =>
      rw [sign] at written
      rw [if_neg Bool.false_ne_true, List.nil_append, number?_of_ne_minus, written]
      have noMinus : ∀ digit : Digit, digit.toChar ≠ '-' := by decide
      cases whole : numeral.whole with
      | nil => exact absurd whole proper.nonempty
      | cons digit others => exact fun rest same => noMinus digit (List.cons.inj same).1

end parts

end Json
end PocketCalculator
