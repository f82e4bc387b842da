import PocketCalculator.Expression.Token

/-!
# Reading tokens from text

A text is read from left to right.  Where a lexeme starts, the longest one is
taken; a character at which none starts is passed over, so every text can be
read.  The lexemes are

* numbers: digits, then a point with at least one digit if there is one, then a
  percent sign if there is one;
* operators: the five operator symbols.

`Token.next` takes one token and gives the text after it, which is shorter
(`Token.next_shorter`); `Token.scan` repeats this to the end.
-/

set_option autoImplicit false

namespace PocketCalculator
namespace Token

/-! ## Lexemes -/

/-- The operator whose symbol starts the text, and the text after it. -/
def operatorAt? : List Char → Option (Operator × List Char)
  | '+' :: rest => some (.add, rest)
  | '-' :: rest => some (.subtract, rest)
  | '*' :: rest => some (.multiply, rest)
  | '/' :: rest => some (.divide, rest)
  | 'M' :: 'O' :: 'D' :: rest => some (.modulo, rest)
  | _ => none

/-- The fraction digits after a point that starts the text; a point without a
digit after it is left in place. -/
def fractionAt : List Char → Digits × List Char
  | '.' :: rest =>
      match Digits.run rest with
      | ([], _) => ([], '.' :: rest)
      | (digits, after) => (digits, after)
  | text => ([], text)

/-- Whether a percent sign starts the text, and the text after it. -/
def percentAt : List Char → Bool × List Char
  | '%' :: rest => (true, rest)
  | text => (false, text)

/-- The longest number that starts the text, and the text after it. -/
def numberAt? (text : List Char) : Option (Token × List Char) :=
  match Digits.run text with
  | ([], _) => none
  | (whole, afterWhole) =>
      let (fraction, afterFraction) := fractionAt afterWhole
      let (percent, rest) := percentAt afterFraction
      some (number (Numeral.toBinary64 { whole, fraction }) percent, rest)

/-- The longest lexeme that starts the text, as a token, and the text after it. -/
def lexemeAt? (text : List Char) : Option (Token × List Char) :=
  match numberAt? text with
  | some read => some read
  | none => (operatorAt? text).map fun read => (operator read.1, read.2)

/-! ## One token and all tokens -/

/-- The first token of a text and the text after it.  Without a token the whole
text is passed over. -/
def next : List Char → Option Token × List Char
  | [] => (none, [])
  | c :: rest =>
      match lexemeAt? (c :: rest) with
      | some (token, after) => (some token, after)
      | none => next rest

theorem operatorAt?_shorter {text rest : List Char} {operator : Operator}
    (read : operatorAt? text = some (operator, rest)) : rest.length < text.length := by
  unfold operatorAt? at read
  split at read <;> simp at read <;> obtain ⟨_, rfl⟩ := read <;> simp only [List.length_cons] <;>
    omega

theorem fractionAt_length (text : List Char) :
    (fractionAt text).2.length ≤ text.length := by
  unfold fractionAt
  split
  · rename_i rest
    have total := Digits.run_rest_length rest
    split
    · simp
    · rename_i found
      rw [found] at total
      simp only [List.length_cons] at total ⊢
      omega
  · simp

theorem percentAt_length (text : List Char) : (percentAt text).2.length ≤ text.length := by
  unfold percentAt
  split <;> simp

theorem numberAt?_shorter {text rest : List Char} {token : Token}
    (read : numberAt? text = some (token, rest)) : rest.length < text.length := by
  have total := Digits.run_rest_length text
  unfold numberAt? at read
  split at read
  · contradiction
  · rename_i whole afterWhole nonempty found
    rw [found] at total
    simp only [Option.some.injEq, Prod.mk.injEq] at read
    have some_digit : 0 < whole.length := by
      cases whole with
      | nil => exact absurd rfl nonempty
      | cons _ _ => simp
    have fraction := fractionAt_length afterWhole
    have percent := percentAt_length (fractionAt afterWhole).2
    rw [read.2] at percent
    simp only at total
    omega

theorem lexemeAt?_shorter {text rest : List Char} {token : Token}
    (read : lexemeAt? text = some (token, rest)) : rest.length < text.length := by
  unfold lexemeAt? at read
  split at read
  · rename_i found
    injection read with read
    subst read
    exact numberAt?_shorter found
  · obtain ⟨⟨operator, after⟩, found, same⟩ := Option.map_eq_some_iff.mp read
    injection same with _ same
    subst same
    exact operatorAt?_shorter found

/-- **Progress.** Taking a token leaves a shorter text. -/
theorem next_shorter {text rest : List Char} {token : Token}
    (read : next text = (some token, rest)) : rest.length < text.length := by
  induction text with
  | nil => simp [next] at read
  | cons c tail ih =>
      unfold next at read
      split at read
      · rename_i found
        simp only [Prod.mk.injEq, Option.some.injEq] at read
        obtain ⟨rfl, rfl⟩ := read
        exact lexemeAt?_shorter found
      · exact Nat.lt_trans (ih read) (Nat.lt_succ_self _)

/-- All tokens of a text, each with the text after it. -/
def scan (text : List Char) : List (Token × List Char) :=
  match _read : next text with
  | (none, _) => []
  | (some token, rest) => (token, rest) :: scan rest
termination_by text.length
decreasing_by exact next_shorter _read

/-- The tokens of a text. -/
def ofChars (text : List Char) : List Token := (scan text).map Prod.fst

/-- The tokens of a string. -/
def ofString (text : String) : List Token := ofChars text.toList

end Token
end PocketCalculator
