import Mathlib.Control.Monad.Basic
import PocketCalculator.Expression.Evaluation
import PocketCalculator.Proofs.Expression.Division

/-!
# Strict left-to-right evaluation

An operator symbol divides an expression wherever it stands: the tokens before
it do not depend on what follows, and what follows is read as if it stood alone
(`ofChars_append`).  In an evaluation an operator replaces one that waits, so all
that is left of the text before it is its value.

**An expression is evaluated strictly from left to right**
(`evaluate_append_symbol`): with an operator in it, it is the value of the text
before the operator, continued with the tokens after it; a failure of the text
before the operator is the failure of the whole.
-/

set_option autoImplicit false

namespace PocketCalculator

namespace Digits

/-- What follows a text without a digit at its front adds no digit to a row. -/
theorem run_append_rest (text : List Char) {tail : List Char}
    (stops : startsWithDigit tail = false) :
    run (text ++ tail) = ((run text).1, (run text).2 ++ tail) := by
  have noDigit : startsWithDigit ((run text).2 ++ tail) = false := by
    have ended := startsWithDigit_run_rest text
    cases after : (run text).2 with
    | nil => exact stops
    | cons c rest =>
        rw [after] at ended
        exact ended
  calc run (text ++ tail)
      = run (toChars (run text).1 ++ ((run text).2 ++ tail)) := by
        rw [← List.append_assoc, run_append]
    _ = ((run text).1, (run text).2 ++ tail) := by
        rw [run_toChars_append, run_of_not_startsWithDigit noDigit, List.append_nil]

end Digits

namespace Token

/-! ## Texts that become part of no lexeme before them -/

/-- Whether a text can stand after any text without becoming part of a lexeme
there: it begins with no digit, point or percent sign and with no later letter of
an operator symbol. -/
def separates : List Char → Bool
  | [] => true
  | c :: _ => endsNumber [c] && c != 'O' && c != 'D'

theorem separates_symbolChars (operator : Operator) (rest : List Char) :
    separates (operator.symbolChars ++ rest) = true := by
  cases operator <;> rfl

/-- The later letters of a symbol do not separate. -/
theorem not_separates_of_symbolChars_split {operator : Operator} {front back : List Char}
    (split : operator.symbolChars = front ++ back) (frontNonempty : front ≠ [])
    (backNonempty : back ≠ []) (rest : List Char) : separates (back ++ rest) = false := by
  obtain ⟨first, front, rfl⟩ := List.exists_cons_of_ne_nil frontNonempty
  obtain ⟨next, back, rfl⟩ := List.exists_cons_of_ne_nil backNonempty
  cases operator with
  | modulo =>
      rw [Operator.symbolChars, List.cons_append] at split
      injection split with _ split
      cases front with
      | nil =>
          injection split with same
          subst same
          rfl
      | cons second front =>
          rw [List.cons_append] at split
          injection split with _ split
          cases front with
          | nil =>
              injection split with same
              subst same
              rfl
          | cons third front => simp at split
  | _ => simp [Operator.symbolChars] at split

section Separates

variable {tail : List Char} (apart : separates tail = true)
include apart

theorem endsNumber_of_separates : endsNumber tail = true := by
  cases tail with
  | nil => rfl
  | cons c rest =>
      simp only [separates, Bool.and_eq_true] at apart
      exact apart.1.1

theorem fractionAt_append (text : List Char) :
    fractionAt (text ++ tail) = ((fractionAt text).1, (fractionAt text).2 ++ tail) := by
  have ends := endsNumber_of_separates apart
  by_cases point : ∃ rest, text = '.' :: rest
  · obtain ⟨rest, rfl⟩ := point
    have digits := Digits.run_append_rest rest (startsWithDigit_of_endsNumber ends)
    rw [List.cons_append, fractionAt_point, fractionAt_point, digits]
    by_cases noDigit : (Digits.run rest).1 = []
    · rw [if_pos noDigit, if_pos noDigit, List.cons_append]
    · rw [if_neg noDigit, if_neg noDigit]
  · rw [fractionAt_of_ne_point fun rest same => point ⟨rest, same⟩]
    cases text with
    | nil => exact fractionAt_of_endsNumber ends
    | cons c rest =>
        apply fractionAt_of_ne_point
        intro after same
        rw [List.cons_append] at same
        injection same with same
        exact point ⟨rest, congrArg (· :: rest) same⟩

theorem percentAt_append (text : List Char) :
    percentAt (text ++ tail) = ((percentAt text).1, (percentAt text).2 ++ tail) := by
  cases text with
  | nil => exact percentAt_of_endsNumber (endsNumber_of_separates apart)
  | cons c rest =>
      unfold percentAt
      rw [List.cons_append]
      by_cases percent : c = '%'
      · subst percent
        rfl
      · split <;> split <;> simp_all

theorem numberAt?_append (text : List Char) :
    numberAt? (text ++ tail) = (numberAt? text).map fun read => (read.1, read.2 ++ tail) := by
  have digits := Digits.run_append_rest text
    (startsWithDigit_of_endsNumber (endsNumber_of_separates apart))
  by_cases noDigit : (Digits.run text).1 = []
  · rw [numberAt?_eq_none noDigit, numberAt?_eq_none (by rw [digits]; exact noDigit)]
    rfl
  · rw [numberAt?_eq_some noDigit, numberAt?_eq_some (by rw [digits]; exact noDigit), afterNumber,
      digits, fractionAt_append apart, percentAt_append apart]
    rfl

/-- No symbol is completed by what separates. -/
theorem operatorAt?_append {text : List Char} (nonempty : text ≠ []) :
    operatorAt? (text ++ tail)
      = (operatorAt? text).map fun read => (read.1, read.2 ++ tail) := by
  cases read : operatorAt? text with
  | some found =>
      obtain ⟨operator, rest⟩ := found
      rw [operatorAt?_eq_some_iff] at read
      rw [read, List.append_assoc]
      exact operatorAt?_eq_some_iff.mpr rfl
  | none =>
      cases readAll : operatorAt? (text ++ tail) with
      | none => rfl
      | some found =>
          obtain ⟨operator, rest⟩ := found
          rw [operatorAt?_eq_some_iff] at readAll
          rcases List.append_eq_append_iff.mp readAll with
            ⟨back, symbol, rfl⟩ | ⟨after, rfl, _⟩
          · cases back with
            | nil =>
                rw [List.append_nil] at symbol
                rw [← symbol, operatorAt?_eq_some_iff.mpr (List.append_nil _).symm] at read
                contradiction
            | cons c back =>
                rw [not_separates_of_symbolChars_split symbol nonempty (List.cons_ne_nil _ _)]
                  at apart
                contradiction
          · rw [operatorAt?_eq_some_iff.mpr rfl] at read
            contradiction

/-- Before what separates, a lexeme is read as if nothing followed. -/
theorem lexemeAt?_append {text : List Char} (nonempty : text ≠ []) :
    lexemeAt? (text ++ tail) = (lexemeAt? text).map fun read => (read.1, read.2 ++ tail) := by
  unfold lexemeAt?
  rw [numberAt?_append apart, operatorAt?_append apart nonempty]
  cases numberAt? text with
  | some read => rfl
  | none => cases operatorAt? text <;> rfl

/-- A text without a token is passed over. -/
theorem next_append_of_none {text rest : List Char} (read : next text = (none, rest)) :
    next (text ++ tail) = next tail := by
  induction text with
  | nil => rfl
  | cons c text ih =>
      unfold next at read
      split at read
      · simp at read
      · rename_i silent
        rw [List.cons_append, next, ← List.cons_append,
          lexemeAt?_append apart (List.cons_ne_nil _ _), silent]
        exact ih read

theorem next_append_of_some {text rest : List Char} {token : Token}
    (read : next text = (some token, rest)) : next (text ++ tail) = (some token, rest ++ tail) := by
  induction text with
  | nil => simp [next] at read
  | cons c text ih =>
      unfold next at read
      rw [List.cons_append, next, ← List.cons_append,
        lexemeAt?_append apart (List.cons_ne_nil _ _)]
      split at read
      · rename_i found
        simp only [Prod.mk.injEq, Option.some.injEq] at read
        obtain ⟨rfl, rfl⟩ := read
        rw [found]
        rfl
      · rename_i silent
        rw [silent]
        exact ih read

/-- **What separates divides the tokens of a text.** -/
theorem ofChars_append (text : List Char) :
    ofChars (text ++ tail) = ofChars text ++ ofChars tail := by
  induction text using scan.induct with
  | case1 text rest read =>
      unfold ofChars
      rw [scan_of_next_none read, scan_congr (next_append_of_none apart read)]
      rfl
  | case2 text token rest read ih =>
      rw [ofChars_of_next_some read, ofChars_of_next_some (next_append_of_some apart read), ih,
        List.cons_append]

end Separates

@[simp] theorem ofChars_nil : ofChars [] = [] := by
  have read : next [] = (none, []) := rfl
  rw [ofChars, scan_of_next_none read]
  rfl

/-- A lexeme at the front gives the first token. -/
theorem ofChars_of_lexemeAt? {text rest : List Char} {token : Token}
    (read : lexemeAt? text = some (token, rest)) : ofChars text = token :: ofChars rest :=
  ofChars_of_next_some (next_of_lexemeAt? read)

/-- A symbol at the front is the first token, whatever follows. -/
theorem ofChars_symbolChars_append (operator : Operator) (rest : List Char) :
    ofChars (operator.symbolChars ++ rest) = .operator operator :: ofChars rest := by
  apply ofChars_of_lexemeAt?
  rw [lexemeAt?, numberAt?_symbolChars, operatorAt?_eq_some_iff.mpr rfl]
  rfl

/-- A written number at the front is the first token. -/
theorem ofChars_written {whole fraction : Digits} {fractionChars percentChars rest : List Char}
    {percent : Bool} (nonempty : whole ≠ []) (fractional : Fraction fractionChars fraction)
    (marked : PercentMark percentChars percent)
    (ends : percent = false → endsNumber rest = true) :
    ofChars (whole.toChars ++ fractionChars ++ percentChars ++ rest)
      = .number (Numeral.toBinary64 { whole, fraction }) percent :: ofChars rest := by
  apply ofChars_of_lexemeAt?
  rw [lexemeAt?, numberAt?_written nonempty fractional marked ends]

/-- **An operator symbol divides an expression wherever it stands.** -/
theorem ofChars_append_symbolChars (left : List Char) (operator : Operator)
    (right : List Char) :
    ofChars (left ++ operator.symbolChars ++ right)
      = ofChars left ++ .operator operator :: ofChars right := by
  rw [List.append_assoc, ofChars_append (separates_symbolChars operator right),
    ofChars_symbolChars_append]

end Token

namespace Evaluation

/-! ## Evaluation across an operator -/

/-- Of the tokens before an operator only their value is left after it. -/
theorem evaluateTokens_append_operator {first : List Token} (nonempty : first ≠ [])
    (operator : Operator) (rest : List Token) :
    evaluateTokens (first ++ .operator operator :: rest) =
      (evaluateTokens first).bind fun value =>
        evaluateTokens (.number value false :: .operator operator :: rest) := by
  obtain ⟨token, first, rfl⟩ := List.exists_cons_of_ne_nil nonempty
  rw [List.cons_append, evaluateTokens, evaluateTokens, run_append]
  cases Progress.run { total := token.value } first with
  | ok progress => rfl
  | error error => rfl

theorem readable_of_ne_minus {text : List Char} (noMinus : ∀ rest, text ≠ '-' :: rest) :
    readable text = text := by
  unfold readable
  split
  · rename_i rest
    exact absurd rfl (noMinus rest)
  · rfl

/-- The text that is read for an expression begins as it does for its front. -/
theorem readable_append {front : List Char} (nonempty : front ≠ []) (rest : List Char) :
    readable (front ++ rest) = readable front ++ rest := by
  obtain ⟨c, front, rfl⟩ := List.exists_cons_of_ne_nil nonempty
  by_cases minus : c = '-'
  · subst minus
    rfl
  · have noMinus : ∀ after other, c :: after ≠ '-' :: other := by
      intro after other same
      injection same with same
      exact minus same
    rw [List.cons_append, readable_of_ne_minus (noMinus _), readable_of_ne_minus (noMinus _),
      List.cons_append]

/-- A minus sign at the front is read after a zero. -/
theorem ofChars_readable_minus (rest : List Char) :
    Token.ofChars (readable ('-' :: rest)) =
      .number (Numeral.toBinary64 { whole := [0] }) false :: Token.ofChars ('-' :: rest) :=
  Token.ofChars_written (List.cons_ne_nil 0 []) .absent .absent fun _ => rfl

/-- What is read for an expression with a token has a token. -/
theorem ofChars_readable_ne_nil {text : List Char} (hasToken : Token.ofChars text ≠ []) :
    Token.ofChars (readable text) ≠ [] := by
  by_cases minus : ∃ rest, text = '-' :: rest
  · obtain ⟨rest, rfl⟩ := minus
    rw [ofChars_readable_minus]
    exact List.cons_ne_nil _ _
  · rw [readable_of_ne_minus fun rest same => minus ⟨rest, same⟩]
    exact hasToken

/-- A text with a value has a token. -/
theorem ofString_ne_nil_of_evaluate {text : String} {value : Binary64}
    (evaluated : evaluate text = .ok value) : Token.ofString text ≠ [] := by
  intro noToken
  by_cases minus : ∃ rest, text.toList = '-' :: rest
  · obtain ⟨rest, minus⟩ := minus
    have token := Token.ofChars_symbolChars_append .subtract rest
    have symbol : Operator.subtract.symbolChars ++ rest = text.toList := minus.symm
    rw [symbol] at token
    rw [Token.ofString, token] at noToken
    exact List.cons_ne_nil _ _ noToken
  · rw [evaluate, readable_of_ne_minus fun rest same => minus ⟨rest, same⟩] at evaluated
    rw [Token.ofString] at noToken
    rw [noToken] at evaluated
    exact absurd evaluated nofun

theorem toList_append_symbol (left : String) (operator : Operator) (right : String) :
    (left ++ operator.symbol ++ right).toList
      = left.toList ++ operator.symbolChars ++ right.toList := by
  rw [String.toList_append, String.toList_append, Operator.symbol, String.toList_ofList]

/-- The value of an expression with an operator in it is the value of the text
before the operator, continued with the tokens after it. -/
theorem evaluate_eq_bind {left : String} (hasToken : Token.ofString left ≠ [])
    (operator : Operator) (right : String) :
    evaluate (left ++ operator.symbol ++ right) =
      (evaluate left).bind fun value =>
        evaluateTokens (.number value false :: .operator operator :: Token.ofString right) := by
  have nonempty : left.toList ≠ [] := by
    intro empty
    rw [Token.ofString, empty, Token.ofChars_nil] at hasToken
    exact hasToken rfl
  rw [evaluate, toList_append_symbol, List.append_assoc, readable_append nonempty,
    ← List.append_assoc, Token.ofChars_append_symbolChars,
    evaluateTokens_append_operator (ofChars_readable_ne_nil hasToken)]
  rfl

/-- **Strict left-to-right evaluation.** A failure of the text before an operator
is the failure of the whole; else its value stands for that text, and the tokens
after the operator are those that they are alone.  Hence an operator at the end
has no effect, and one that is followed by another is replaced by it. -/
theorem evaluate_append_symbol (left right : String) (operator : Operator)
    (hasToken : Token.ofString left ≠ []) :
    (∀ error, evaluate left = .error error →
      evaluate (left ++ operator.symbol ++ right) = .error error) ∧
    (∀ value, evaluate left = .ok value →
      evaluate (left ++ operator.symbol ++ right) =
        evaluateTokens (.number value false :: .operator operator :: Token.ofString right)) ∧
    evaluate (left ++ operator.symbol) = evaluate left ∧
    ∀ replaced : Operator,
      evaluate (left ++ replaced.symbol ++ operator.symbol ++ right)
        = evaluate (left ++ operator.symbol ++ right) := by
  refine ⟨?_, ?_, ?_, ?_⟩
  · intro error failed
    rw [evaluate_eq_bind hasToken, failed]
    rfl
  · intro value evaluated
    rw [evaluate_eq_bind hasToken, evaluated]
    rfl
  · have atEnd := evaluate_eq_bind hasToken operator ""
    rw [String.append_empty] at atEnd
    rw [atEnd]
    cases evaluate left with
    | ok value =>
        rw [Token.ofString, String.toList_empty, Token.ofChars_nil]
        rfl
    | error error => rfl
  · intro replaced
    have tokens : Token.ofString (operator.symbol ++ right)
        = .operator operator :: Token.ofString right := by
      rw [Token.ofString, String.toList_append, Operator.symbol, String.toList_ofList,
        Token.ofChars_symbolChars_append]
      rfl
    have regroup : left ++ replaced.symbol ++ operator.symbol ++ right
        = left ++ replaced.symbol ++ (operator.symbol ++ right) := String.append_assoc
    rw [regroup, evaluate_eq_bind hasToken, tokens, evaluate_eq_bind hasToken]
    rfl

/-- What is left of a symbol before an operator is no part of it. -/
theorem evaluate_after_half_deleted_symbol :
    Token.ofString "7MO" ≠ [] ∧ evaluate "7MO" = .ok (.ofNat 7) ∧
      evaluate ("7MO" ++ Operator.modulo.symbol ++ "3") =
        evaluateTokens (.number (.ofNat 7) false :: .operator .modulo :: Token.ofString "3") := by
  have hasToken : Token.ofString "7MO" ≠ [] := by decide +kernel
  have evaluated : evaluate "7MO" = .ok (.ofNat 7) := by decide +kernel
  exact ⟨hasToken, evaluated,
    (evaluate_append_symbol "7MO" "3" .modulo hasToken).2.1 (.ofNat 7) evaluated⟩

end Evaluation
end PocketCalculator
