import PocketCalculator.Proofs.Expression.Division
import PocketCalculator.Proofs.Number.CorrectRounding
import PocketCalculator.Proofs.Number.PlainLayout

/-!
# Literals

The lexemes of a text are counted as they follow each other (`Token.LexemeAt`), and the token
with an index is the one that the lexeme with this index writes (`getElem?_ofChars_iff`).  A
number is written by digits, with a point and more digits or without (`NumberLexeme`), and
these denote a rational number (`Digits.pointValue`) that has nothing to do with how it is
read.

**Literals are read with correct rounding** (`literals_correctly_rounded`): the literal of a
number token is the number that the rational number of its digits is correctly rounded to,
however many digits there are.  That leaves no room for NaN and for a sign, zeros at the
ends do not matter, and literals are ordered as their digits are.
-/

set_option autoImplicit false

namespace PocketCalculator

namespace Digits

/-- The rational number that digits before a point and after it denote. -/
def pointValue (whole fraction : Digits) : ℚ :=
  whole.value + fraction.value / (10 : ℚ) ^ fraction.length

/-- Zeros in front of the whole digits and after the fraction digits do not count. -/
theorem pointValue_zeros (whole fraction : Digits) (leading trailing : Nat) :
    pointValue (List.replicate leading 0 ++ whole) (fraction ++ List.replicate trailing 0)
      = pointValue whole fraction := by
  have tens : ∀ count : Nat, (10 : ℚ) ^ count ≠ 0 := fun count => pow_ne_zero count (by norm_num)
  unfold pointValue
  rw [value_append, value_append, value_replicate_zero, value_replicate_zero, List.length_append,
    List.length_replicate, Nat.zero_mul, Nat.zero_add, Nat.add_zero, Nat.cast_mul, Nat.cast_pow,
    Nat.cast_ofNat, pow_add, mul_div_mul_right _ _ (tens trailing)]

/-- A numeral without a sign and a power of ten denotes what its digits do. -/
theorem magnitude_eq_pointValue (whole fraction : Digits) :
    Numeral.magnitude { whole, fraction } = pointValue whole fraction := by
  have tens : (10 : ℚ) ^ fraction.length ≠ 0 := pow_ne_zero _ (by norm_num)
  rw [Layout.magnitude_plainDigits, value_append, pointValue, Nat.cast_add, Nat.cast_mul,
    Nat.cast_pow, Nat.cast_ofNat, add_div, mul_div_cancel_right₀ _ tens]

end Digits

open Binary64 (IsRounded AtMost)

/-- **A numeral is read with correct rounding.** -/
theorem Numeral.isRounded_toBinary64_iff (whole fraction : Digits) (x : Binary64) :
    IsRounded (whole.pointValue fraction) x ↔ x = toBinary64 { whole, fraction } := by
  have positive := ratio_pos { whole, fraction }
  have read : toBinary64 { whole, fraction }
      = .nearest false ((ratio { whole, fraction }).1 * unitsPerOne)
          (ratio { whole, fraction }).2 := rfl
  rw [← Digits.magnitude_eq_pointValue, magnitude, read, Binary64.isRounded_iff positive]

namespace Token

/-! ## Lexemes by their index -/

/-- The characters of a number with its digits before and after the point. -/
inductive NumberLexeme : List Char → Digits → Digits → Bool → Prop where
  | digits {whole fraction : Digits} {percent : Bool} {fractionChars percentChars : List Char}
      (nonempty : whole ≠ []) (fractional : Fraction fractionChars fraction)
      (marked : PercentMark percentChars percent) :
      NumberLexeme (whole.toChars ++ fractionChars ++ percentChars) whole fraction percent

theorem NumberLexeme.lexeme {lexeme : List Char} {whole fraction : Digits} {percent : Bool}
    (written : NumberLexeme lexeme whole fraction percent) :
    Lexeme lexeme (.number (Numeral.toBinary64 { whole, fraction }) percent) := by
  cases written with
  | digits nonempty fractional marked => exact .number whole nonempty fractional marked

theorem Lexeme.exists_digits {lexeme : List Char} {literal : Binary64} {percent : Bool}
    (written : Lexeme lexeme (.number literal percent)) :
    ∃ whole fraction, NumberLexeme lexeme whole fraction percent := by
  cases written with
  | number whole nonempty fractional marked => exact ⟨_, _, .digits nonempty fractional marked⟩

/-- The lexemes of a text by their index.  The first one is the longest lexeme after a gap in
which none starts, and the later ones are those of the text after it. -/
inductive LexemeAt : List Char → Nat → List Char → Prop where
  | first {gap lexeme rest text : List Char} {token : Token} (split : text = gap ++ lexeme ++ rest)
      (silent : SilentGap gap (lexeme ++ rest))
      (longest : LongestLexeme (lexeme ++ rest) lexeme token rest) : LexemeAt text 0 lexeme
  | later {gap lexeme rest text other : List Char} {token : Token} {index : Nat}
      (split : text = gap ++ lexeme ++ rest) (silent : SilentGap gap (lexeme ++ rest))
      (longest : LongestLexeme (lexeme ++ rest) lexeme token rest)
      (later : LexemeAt rest index other) : LexemeAt text (index + 1) other

theorem exists_lexemeAt {text : List Char} {index : Nat} {token : Token}
    (here : (ofChars text)[index]? = some token) :
    ∃ lexeme, LexemeAt text index lexeme ∧ Lexeme lexeme token := by
  induction text using scan.induct generalizing index with
  | case1 text rest read =>
      rw [ofChars, scan_of_next_none read, List.map_nil, List.getElem?_nil] at here
      exact absurd here.symm (Option.some_ne_none token)
  | case2 text first rest read ih =>
      obtain ⟨gap, lexeme, split, silent, longest⟩ := division_of_next_some read
      rw [ofChars_of_next_some read] at here
      cases index with
      | zero =>
          obtain rfl : first = token := Option.some.inj here
          exact ⟨lexeme, .first split silent longest, longest.written⟩
      | succ index =>
          obtain ⟨other, later, written⟩ := ih here
          exact ⟨other, .later split silent longest later, written⟩

theorem LexemeAt.getElem?_ofChars {text lexeme : List Char} {index : Nat} {token : Token}
    (here : LexemeAt text index lexeme) (written : Lexeme lexeme token) :
    (ofChars text)[index]? = some token := by
  induction here with
  | first split silent longest =>
      rw [split, ofChars_of_next_some (next_of_longestLexeme silent longest),
        longest.written.token_unique written]
      rfl
  | later split silent longest _ ih =>
      rw [split, ofChars_of_next_some (next_of_longestLexeme silent longest)]
      exact ih written

/-- **The token with an index is the one that the lexeme with this index writes.** -/
theorem getElem?_ofChars_iff {text : List Char} {index : Nat} {token : Token} :
    (ofChars text)[index]? = some token ↔
      ∃ lexeme, LexemeAt text index lexeme ∧ Lexeme lexeme token :=
  ⟨exists_lexemeAt, fun ⟨_, here, written⟩ => here.getElem?_ofChars written⟩

/-- A lexeme that is the whole text is the first one. -/
theorem Lexeme.lexemeAt {lexeme : List Char} {token : Token} (written : Lexeme lexeme token) :
    LexemeAt lexeme 0 lexeme := by
  obtain ⟨whole, longest⟩ := longestLexeme_of_lexemeAt? (lexemeAt?_written written)
  obtain rfl : lexeme = whole := longest.split.trans (List.append_nil whole)
  have alone : LongestLexeme (lexeme ++ []) lexeme token [] := by
    rw [List.append_nil]
    exact longest
  exact .first (List.append_nil lexeme).symm (silentGap_nil _) alone

/-! ## Literals -/

/-- The token with an index is a number with the given digits and percent mark, and carries
the literal. -/
structure LiteralAt (text : String) (index : Nat) (whole fraction : Digits) (percent : Bool)
    (literal : Binary64) : Prop where
  token : (ofString text)[index]? = some (.number literal percent)
  digits : ∃ lexeme, LexemeAt text.toList index lexeme ∧ NumberLexeme lexeme whole fraction percent

/-- Every number token has digits. -/
theorem exists_literalAt {text : String} {index : Nat} {literal : Binary64} {percent : Bool}
    (token : (ofString text)[index]? = some (.number literal percent)) :
    ∃ whole fraction, LiteralAt text index whole fraction percent literal := by
  obtain ⟨lexeme, here, written⟩ := exists_lexemeAt token
  obtain ⟨whole, fraction, digits⟩ := written.exists_digits
  exact ⟨whole, fraction, token, lexeme, here, digits⟩

/-- The text of a numeral without a sign and a power of ten is a number with its digits. -/
theorem numberLexeme_toChars {whole : Digits} (nonempty : whole ≠ []) (fraction : Digits) :
    NumberLexeme (Numeral.toChars { whole, fraction }) whole fraction false := by
  cases fraction with
  | nil =>
      show NumberLexeme (whole.toChars ++ [] ++ []) whole [] false
      exact .digits nonempty .absent .absent
  | cons digit rest =>
      show NumberLexeme (whole.toChars ++ '.' :: Digits.toChars (digit :: rest) ++ []) whole
        (digit :: rest) false
      exact .digits nonempty (.digits _ (List.cons_ne_nil digit rest)) .absent

/-- All digits can be read, alone and with a fraction. -/
theorem exists_literalAt_text {whole : Digits} (nonempty : whole ≠ []) (fraction : Digits) :
    ∃ literal, LiteralAt (Numeral.text { whole, fraction }) 0 whole fraction false literal := by
  have number := numberLexeme_toChars nonempty fraction
  have here := number.lexeme.lexemeAt
  refine ⟨Numeral.toBinary64 { whole, fraction }, ?_, Numeral.toChars { whole, fraction }, ?_,
    number⟩
  · rw [ofString, Numeral.text, String.toList_ofList]
    exact here.getElem?_ofChars number.lexeme
  · rw [Numeral.text, String.toList_ofList]
    exact here

section LiteralAt

variable {text : String} {index : Nat} {whole fraction : Digits} {percent : Bool}
  {literal : Binary64} (read : LiteralAt text index whole fraction percent literal)
include read

/-- **The literal is what the number of the digits is correctly rounded to.** -/
theorem LiteralAt.isRounded_iff (x : Binary64) :
    IsRounded (whole.pointValue fraction) x ↔ x = literal := by
  obtain ⟨lexeme, here, digits⟩ := read.digits
  have token := (here.getElem?_ofChars digits.lexeme).symm.trans read.token
  obtain ⟨rfl, _⟩ := Token.number.inj (Option.some.inj token)
  exact Numeral.isRounded_toBinary64_iff whole fraction x

theorem LiteralAt.isRounded : IsRounded (whole.pointValue fraction) literal :=
  (read.isRounded_iff literal).mpr rfl

end LiteralAt

/-- **Literals are read with correct rounding.** Every number token is written by digits, and
any digits can be read.  The literal is the one number that their rational number is correctly
rounded to: neither NaN nor negative, and infinity exactly from the point on that lies halfway
between the largest finite number and 2¹⁰²⁴.  Leading zeros and trailing zeros of a fraction
do not change it, and it grows with the rational number. -/
theorem literals_correctly_rounded :
    (∀ (text : String) (index : Nat) (literal : Binary64) (percent : Bool),
      (ofString text)[index]? = some (.number literal percent) →
        ∃ whole fraction, LiteralAt text index whole fraction percent literal) ∧
    (∀ whole fraction : Digits, whole ≠ [] →
      ∃ literal, LiteralAt (Numeral.text { whole, fraction }) 0 whole fraction false literal) ∧
    (∀ (text : String) (index : Nat) (whole fraction : Digits) (percent : Bool)
        (literal : Binary64), LiteralAt text index whole fraction percent literal →
      (∀ x, IsRounded (whole.pointValue fraction) x ↔ x = literal) ∧
      (literal = .infinite false ∨ ∃ code, literal = .finite false code) ∧
      (literal = .infinite false ↔ 2 ^ 1024 - 2 ^ 970 ≤ whole.pointValue fraction)) ∧
    (∀ (text text' : String) (index index' : Nat) (whole fraction : Digits)
        (percent percent' : Bool) (literal literal' : Binary64) (leading trailing : Nat),
      LiteralAt text index whole fraction percent literal →
      LiteralAt text' index' (List.replicate leading 0 ++ whole)
        (fraction ++ List.replicate trailing 0) percent' literal' →
      literal' = literal) ∧
    ∀ (text text' : String) (index index' : Nat) (whole fraction whole' fraction' : Digits)
        (percent percent' : Bool) (literal literal' : Binary64),
      LiteralAt text index whole fraction percent literal →
      LiteralAt text' index' whole' fraction' percent' literal' →
      whole.pointValue fraction ≤ whole'.pointValue fraction' → AtMost literal literal' := by
  refine ⟨fun _ _ _ _ => exists_literalAt,
    fun _ fraction nonempty => exists_literalAt_text nonempty fraction, ?_, ?_, ?_⟩
  · intro text index whole fraction percent literal read
    refine ⟨read.isRounded_iff, ?_⟩
    cases read.isRounded with
    | finite code inRange nearest even =>
        exact ⟨.inr ⟨code, rfl⟩, iff_of_false nofun inRange.not_ge⟩
    | infinite past => exact ⟨.inl rfl, iff_of_true rfl past⟩
  · intro text text' index index' whole fraction percent percent' literal literal' leading trailing
      read read'
    have rounded := read'.isRounded
    rw [Digits.pointValue_zeros] at rounded
    exact (read.isRounded_iff literal').mp rounded
  · intro text text' index index' whole fraction whole' fraction' percent percent' literal literal'
      read read' ordered
    exact read.isRounded.atMost read'.isRounded ordered

/-- Halfway between two numbers the even one is read, and a digit far behind decides otherwise. -/
example :
    ofString "9007199254740993" = [.number (.ofNat 9007199254740992) false] ∧
      ofString "9007199254740993.0000000000000000000000001"
        = [.number (.ofNat 9007199254740994) false] := by
  decide +kernel

end Token
end PocketCalculator
