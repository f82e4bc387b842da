import PocketCalculator.Expression.Lexer

/-!
# Lexemes

The grammar of the lexemes of an expression, as a relation between characters and
the token that they write (`Lexeme`):

* a number is digits, then a point and digits or neither, then a percent sign or
  nothing;
* an operator is its symbol.

**The lexer takes the longest lexeme.** What `Token.lexemeAt?` reads is a lexeme
at the front of the text, and no lexeme at the front is longer
(`longestLexeme_of_lexemeAt?`); where it reads nothing, no lexeme is at the front
(`not_startsLexeme_of_lexemeAt?`).  The grammar is unambiguous
(`Lexeme.token_unique`), so these two laws determine what is read.
-/

set_option autoImplicit false

namespace PocketCalculator

/-! ## Rows of digits -/

namespace Digits

/-- Whether a text goes on with a digit. -/
def startsWithDigit : List Char → Bool
  | [] => false
  | c :: _ => (Digit.ofChar? c).isSome

@[simp] theorem run_of_not_startsWithDigit {text : List Char}
    (stops : startsWithDigit text = false) : run text = ([], text) := by
  cases text with
  | nil => rfl
  | cons c rest =>
      simp only [startsWithDigit, Option.isSome_eq_false_iff, Option.isNone_iff_eq_none] at stops
      simp [run, stops]

/-- Written digits are read in front of the digits that follow them. -/
theorem run_toChars_append (digits : Digits) (rest : List Char) :
    run (toChars digits ++ rest) = (digits ++ (run rest).1, (run rest).2) := by
  induction digits with
  | nil => rfl
  | cons digit digits ih =>
      have head : toChars (digit :: digits) ++ rest
          = Digit.toChar digit :: (toChars digits ++ rest) := rfl
      rw [head, run, Digit.ofChar?_toChar, ih]
      rfl

/-- The digits of a row end where no digit follows. -/
theorem startsWithDigit_run_rest (text : List Char) :
    startsWithDigit (run text).2 = false := by
  induction text with
  | nil => rfl
  | cons c rest ih =>
      unfold run
      split
      · exact ih
      · rename_i notDigit
        simp [startsWithDigit, notDigit]

theorem run_rest_length_le (text : List Char) : (run text).2.length ≤ text.length := by
  have total := run_rest_length text
  omega

end Digits

namespace Token

/-! ## The grammar -/

/-- The characters of a fraction: a point and digits, or nothing. -/
inductive Fraction : List Char → Digits → Prop where
  | absent : Fraction [] []
  | digits (fraction : Digits) (nonempty : fraction ≠ []) :
      Fraction ('.' :: fraction.toChars) fraction

/-- The characters of a percent mark: a percent sign, or nothing. -/
inductive PercentMark : List Char → Bool → Prop where
  | absent : PercentMark [] false
  | sign : PercentMark ['%'] true

/-- The characters that write a token. -/
inductive Lexeme : List Char → Token → Prop where
  | number {fractionChars percentChars : List Char} (whole : Digits) {fraction : Digits}
      {percent : Bool} (nonempty : whole ≠ []) (fractional : Fraction fractionChars fraction)
      (marked : PercentMark percentChars percent) :
      Lexeme (whole.toChars ++ fractionChars ++ percentChars)
        (.number (Numeral.toBinary64 { whole, fraction }) percent)
  | operator (operator : Operator) : Lexeme operator.symbolChars (.operator operator)

/-- Whether some lexeme is at the front of a text. -/
def StartsLexeme (text : List Char) : Prop :=
  ∃ lexeme token rest, Lexeme lexeme token ∧ text = lexeme ++ rest

/-- A lexeme at the front of a text such that none at the front is longer. -/
structure LongestLexeme (text lexeme : List Char) (token : Token) (rest : List Char) : Prop where
  /-- The lexeme is at the front, and the rest follows it. -/
  split : text = lexeme ++ rest
  /-- It writes the token. -/
  written : Lexeme lexeme token
  /-- Every lexeme at the front is at most as long. -/
  longest : ∀ other otherToken otherRest, Lexeme other otherToken → text = other ++ otherRest →
    other.length ≤ lexeme.length

/-! ## Reading the parts of a number -/

theorem fractionAt_of_ne_point {text : List Char} (noPoint : ∀ rest, text ≠ '.' :: rest) :
    fractionAt text = ([], text) := by
  unfold fractionAt
  split
  · rename_i rest
    exact absurd rfl (noPoint rest)
  · rfl

/-- A point with a digit after it starts a fraction, and only then. -/
theorem fractionAt_point (rest : List Char) :
    fractionAt ('.' :: rest) =
      if (Digits.run rest).1 = [] then ([], '.' :: rest) else Digits.run rest := by
  simp only [fractionAt]
  split
  · rename_i after found
    rw [found, if_pos rfl]
  · rename_i digits after nonempty found
    rw [found, if_neg nonempty]

/-- What is read as a fraction is one. -/
theorem fraction_of_fractionAt (text : List Char) :
    ∃ chars, Fraction chars (fractionAt text).1 ∧ text = chars ++ (fractionAt text).2 := by
  by_cases point : ∃ rest, text = '.' :: rest
  · obtain ⟨rest, rfl⟩ := point
    rw [fractionAt_point]
    split
    · exact ⟨[], .absent, rfl⟩
    · rename_i nonempty
      refine ⟨_, .digits _ nonempty, ?_⟩
      rw [List.cons_append, Digits.run_append]
  · rw [fractionAt_of_ne_point fun rest same => point ⟨rest, same⟩]
    exact ⟨[], .absent, rfl⟩

/-- What is read as a percent mark is one. -/
theorem percentMark_of_percentAt (text : List Char) :
    ∃ chars, PercentMark chars (percentAt text).1 ∧ text = chars ++ (percentAt text).2 := by
  unfold percentAt
  split
  · exact ⟨['%'], .sign, rfl⟩
  · exact ⟨[], .absent, rfl⟩

/-- What is left after a number is read: the text after its digits, its fraction
and its percent mark. -/
def afterNumber (text : List Char) : List Char :=
  (percentAt (fractionAt (Digits.run text).2).2).2

/-- A text with a digit at its front is read as a number. -/
theorem numberAt?_eq_some {text : List Char} (digit : (Digits.run text).1 ≠ []) :
    numberAt? text =
      some (.number
          (Numeral.toBinary64 { whole := (Digits.run text).1,
                                fraction := (fractionAt (Digits.run text).2).1 })
          (percentAt (fractionAt (Digits.run text).2).2).1,
        afterNumber text) := by
  unfold numberAt? afterNumber
  split
  · rename_i found
    rw [found] at digit
    exact absurd rfl digit
  · rename_i whole after nonempty found
    rw [found]

theorem numberAt?_eq_none {text : List Char} (noDigit : (Digits.run text).1 = []) :
    numberAt? text = none := by
  unfold numberAt?
  split
  · rfl
  · rename_i whole after nonempty found
    rw [found] at noDigit
    exact absurd noDigit nonempty

/-- What is read as a number is a lexeme at the front of the text. -/
theorem lexeme_of_numberAt? {text rest : List Char} {token : Token}
    (read : numberAt? text = some (token, rest)) :
    ∃ lexeme, Lexeme lexeme token ∧ text = lexeme ++ rest := by
  by_cases digit : (Digits.run text).1 = []
  · rw [numberAt?_eq_none digit] at read
    contradiction
  · rw [numberAt?_eq_some digit] at read
    simp only [Option.some.injEq, Prod.mk.injEq] at read
    obtain ⟨rfl, rfl⟩ := read
    obtain ⟨fractionChars, fractional, afterWhole⟩ := fraction_of_fractionAt (Digits.run text).2
    obtain ⟨percentChars, marked, afterFraction⟩ :=
      percentMark_of_percentAt (fractionAt (Digits.run text).2).2
    refine ⟨_, .number _ digit fractional marked, ?_⟩
    rw [List.append_assoc, List.append_assoc, afterNumber, ← afterFraction, ← afterWhole,
      Digits.run_append]

/-! ## Reading an operator -/

/-- The operator that is read is the one whose symbol is at the front. -/
theorem operatorAt?_eq_some_iff {text rest : List Char} {operator : Operator} :
    operatorAt? text = some (operator, rest) ↔ text = operator.symbolChars ++ rest := by
  constructor
  · intro read
    unfold operatorAt? at read
    split at read <;> simp at read <;> obtain ⟨rfl, rfl⟩ := read <;> rfl
  · rintro rfl
    cases operator <;> rfl

/-- No operator begins with a digit. -/
theorem startsWithDigit_symbolChars (operator : Operator) (rest : List Char) :
    Digits.startsWithDigit (operator.symbolChars ++ rest) = false := by
  cases operator <;> rfl

theorem symbolChars_ne_nil (operator : Operator) : operator.symbolChars ≠ [] := by
  cases operator <;> exact List.cons_ne_nil _ _

/-- A written row of digits starts with a digit. -/
theorem run_toChars_ne_nil {whole : Digits} (nonempty : whole ≠ []) (rest : List Char) :
    (Digits.run (whole.toChars ++ rest)).1 ≠ [] := by
  rw [Digits.run_toChars_append]
  exact List.append_ne_nil_of_left_ne_nil nonempty _

/-- Where an operator is at the front, no number is. -/
theorem numberAt?_symbolChars (operator : Operator) (rest : List Char) :
    numberAt? (operator.symbolChars ++ rest) = none := by
  apply numberAt?_eq_none
  rw [Digits.run_of_not_startsWithDigit (startsWithDigit_symbolChars operator rest)]

theorem Lexeme.ne_nil {lexeme : List Char} {token : Token} (written : Lexeme lexeme token) :
    lexeme ≠ [] := by
  cases written with
  | number whole nonempty _ _ =>
      intro empty
      have digit := run_toChars_ne_nil nonempty []
      simp only [List.append_eq_nil_iff] at empty
      rw [empty.1.1] at digit
      exact digit rfl
  | operator operator => exact symbolChars_ne_nil operator

/-! ## Reading a lexeme -/

/-- Fraction digits with a point before them are read in front of the digits that
follow them. -/
theorem fractionAt_digits {fraction : Digits} (nonempty : fraction ≠ []) (rest : List Char) :
    fractionAt ('.' :: fraction.toChars ++ rest)
      = (fraction ++ (Digits.run rest).1, (Digits.run rest).2) := by
  rw [List.cons_append, fractionAt_point, if_neg (run_toChars_ne_nil nonempty rest),
    Digits.run_toChars_append]

/-- Where a number lexeme is at the front, at least as much is read as a number. -/
theorem numberAt?_takes {whole fraction : Digits} {fractionChars percentChars text tail : List Char}
    {percent : Bool} (nonempty : whole ≠ []) (fractional : Fraction fractionChars fraction)
    (marked : PercentMark percentChars percent)
    (split : text = whole.toChars ++ fractionChars ++ percentChars ++ tail) :
    ∃ token rest, numberAt? text = some (token, rest) ∧ rest.length ≤ tail.length := by
  rw [List.append_assoc, List.append_assoc] at split
  subst split
  refine ⟨_, _, numberAt?_eq_some (run_toChars_ne_nil nonempty _), ?_⟩
  rw [afterNumber, Digits.run_toChars_append]
  cases fractional with
  | absent =>
      cases marked with
      | absent =>
          exact Nat.le_trans (percentAt_length _)
            (Nat.le_trans (fractionAt_length _) (Digits.run_rest_length_le tail))
      | sign => exact Nat.le_refl _
  | digits fraction nonempty =>
      rw [Digits.run_of_not_startsWithDigit rfl, fractionAt_digits nonempty]
      cases marked with
      | absent => exact Nat.le_trans (percentAt_length _) (Digits.run_rest_length_le tail)
      | sign => exact Nat.le_refl _

/-- **The lexer takes the longest lexeme.** -/
theorem longestLexeme_of_lexemeAt? {text rest : List Char} {token : Token}
    (read : lexemeAt? text = some (token, rest)) :
    ∃ lexeme, LongestLexeme text lexeme token rest := by
  unfold lexemeAt? at read
  split at read
  · rename_i found
    injection read with read
    subst read
    obtain ⟨lexeme, written, split⟩ := lexeme_of_numberAt? found
    refine ⟨lexeme, split, written, ?_⟩
    intro other otherToken otherRest otherWritten otherSplit
    cases otherWritten with
    | number whole nonempty fractional marked =>
        obtain ⟨token, rest, again, shorter⟩ :=
          numberAt?_takes nonempty fractional marked otherSplit
        rw [found] at again
        injection again with again
        injection again with _ same
        have total := congrArg List.length (split.symm.trans otherSplit)
        simp only [List.length_append] at total ⊢
        rw [same] at total
        omega
    | operator operator =>
        rw [otherSplit, numberAt?_symbolChars] at found
        contradiction
  · rename_i noNumber
    obtain ⟨⟨operator, after⟩, found, same⟩ := Option.map_eq_some_iff.mp read
    injection same with tokenSame restSame
    subst tokenSame restSame
    refine ⟨operator.symbolChars, operatorAt?_eq_some_iff.mp found, .operator operator, ?_⟩
    intro other otherToken otherRest otherWritten otherSplit
    cases otherWritten with
    | number whole nonempty fractional marked =>
        obtain ⟨token, rest, again, _⟩ := numberAt?_takes nonempty fractional marked otherSplit
        rw [noNumber] at again
        contradiction
    | operator other =>
        rw [operatorAt?_eq_some_iff.mpr otherSplit] at found
        injection found with found
        injection found with same
        subst same
        exact Nat.le_refl _

/-- **Nothing is passed over that could be read.** -/
theorem not_startsLexeme_of_lexemeAt? {text : List Char} (silent : lexemeAt? text = none) :
    ¬ StartsLexeme text := by
  rintro ⟨lexeme, token, rest, written, split⟩
  unfold lexemeAt? at silent
  cases written with
  | number whole nonempty fractional marked =>
      obtain ⟨token, after, found, _⟩ := numberAt?_takes nonempty fractional marked split
      rw [found] at silent
      contradiction
  | operator operator =>
      rw [operatorAt?_eq_some_iff.mpr split, split, numberAt?_symbolChars] at silent
      contradiction

theorem startsLexeme_of_lexemeAt? {text rest : List Char} {token : Token}
    (read : lexemeAt? text = some (token, rest)) : StartsLexeme text := by
  obtain ⟨lexeme, longest⟩ := longestLexeme_of_lexemeAt? read
  exact ⟨lexeme, token, rest, longest.written, longest.split⟩

/-! ## Reading back what is written -/

/-- Whether a text can stand after a number without becoming part of it. -/
def endsNumber : List Char → Bool
  | [] => true
  | c :: _ => (Digit.ofChar? c).isNone && c != '.' && c != '%'

section EndsNumber

variable {rest : List Char} (ends : endsNumber rest = true)
include ends

theorem startsWithDigit_of_endsNumber : Digits.startsWithDigit rest = false := by
  cases rest with
  | nil => rfl
  | cons c rest =>
      simp only [endsNumber, Bool.and_eq_true] at ends
      simpa [Digits.startsWithDigit] using ends.1.1

theorem fractionAt_of_endsNumber : fractionAt rest = ([], rest) := by
  apply fractionAt_of_ne_point
  rintro after rfl
  simp [endsNumber] at ends

theorem percentAt_of_endsNumber : percentAt rest = (false, rest) := by
  unfold percentAt
  split
  · simp [endsNumber] at ends
  · rfl

end EndsNumber

/-- A written number is read as it is if what follows cannot become part of it;
after a percent sign nothing can. -/
theorem numberAt?_written {whole fraction : Digits} {fractionChars percentChars rest : List Char}
    {percent : Bool} (nonempty : whole ≠ []) (fractional : Fraction fractionChars fraction)
    (marked : PercentMark percentChars percent)
    (ends : percent = false → endsNumber rest = true) :
    numberAt? (whole.toChars ++ fractionChars ++ percentChars ++ rest)
      = some (.number (Numeral.toBinary64 { whole, fraction }) percent, rest) := by
  have wholeRun : Digits.run (whole.toChars ++ fractionChars ++ percentChars ++ rest)
      = (whole, fractionChars ++ percentChars ++ rest) := by
    rw [List.append_assoc, List.append_assoc, Digits.run_toChars_append,
      Digits.run_of_not_startsWithDigit, List.append_nil, List.append_assoc]
    cases fractional with
    | absent =>
        cases marked with
        | absent => exact startsWithDigit_of_endsNumber (ends rfl)
        | sign => rfl
    | digits fraction nonempty => rfl
  have fractionRun : fractionAt (fractionChars ++ percentChars ++ rest)
      = (fraction, percentChars ++ rest) := by
    cases fractional with
    | absent =>
        cases marked with
        | absent => exact fractionAt_of_endsNumber (ends rfl)
        | sign => rfl
    | digits fraction nonempty =>
        rw [List.append_assoc, fractionAt_digits nonempty, Digits.run_of_not_startsWithDigit,
          List.append_nil]
        cases marked with
        | absent => exact startsWithDigit_of_endsNumber (ends rfl)
        | sign => rfl
  have percentRun : percentAt (percentChars ++ rest) = (percent, rest) := by
    cases marked with
    | absent => exact percentAt_of_endsNumber (ends rfl)
    | sign => rfl
  have digit : (Digits.run (whole.toChars ++ fractionChars ++ percentChars ++ rest)).1 ≠ [] := by
    rw [wholeRun]
    exact nonempty
  rw [numberAt?_eq_some digit, afterNumber, wholeRun, fractionRun, percentRun]

/-- A written lexeme that ends its text is read as it is. -/
theorem lexemeAt?_written {lexeme : List Char} {token : Token} (written : Lexeme lexeme token) :
    lexemeAt? lexeme = some (token, []) := by
  unfold lexemeAt?
  cases written with
  | number whole nonempty fractional marked =>
      have ends : endsNumber [] = true := rfl
      have read := numberAt?_written nonempty fractional marked fun _ => ends
      rw [List.append_nil] at read
      rw [read]
  | operator operator =>
      have silent := numberAt?_symbolChars operator []
      have read : operatorAt? operator.symbolChars = some (operator, []) :=
        operatorAt?_eq_some_iff.mpr (List.append_nil _).symm
      rw [List.append_nil] at silent
      rw [silent, read]
      rfl

/-- **The grammar is unambiguous.** -/
theorem Lexeme.token_unique {lexeme : List Char} {first second : Token}
    (writesFirst : Lexeme lexeme first) (writesSecond : Lexeme lexeme second) :
    first = second := by
  have same := (lexemeAt?_written writesFirst).symm.trans (lexemeAt?_written writesSecond)
  injection same with same
  injection same

/-- There is one longest lexeme, and it is the one that is read. -/
theorem LongestLexeme.lexemeAt?_eq {text lexeme rest : List Char} {token : Token}
    (isLongest : LongestLexeme text lexeme token rest) :
    lexemeAt? text = some (token, rest) := by
  cases read : lexemeAt? text with
  | none =>
      exact absurd ⟨lexeme, token, rest, isLongest.written, isLongest.split⟩
        (not_startsLexeme_of_lexemeAt? read)
  | some found =>
      obtain ⟨other, after⟩ := found
      obtain ⟨lexeme', readLongest⟩ := longestLexeme_of_lexemeAt? read
      have sameLength : lexeme'.length = lexeme.length :=
        Nat.le_antisymm
          (isLongest.longest _ _ _ readLongest.written readLongest.split)
          (readLongest.longest _ _ _ isLongest.written isLongest.split)
      obtain ⟨sameLexeme, sameRest⟩ :=
        List.append_inj (readLongest.split.symm.trans isLongest.split) sameLength
      subst sameLexeme sameRest
      rw [readLongest.written.token_unique isLongest.written]

end Token
end PocketCalculator
