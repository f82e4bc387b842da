import PocketCalculator.Proofs.Expression.ReadBack

/-!
# Reading written tokens

Tokens are written one after the other, without blanks between them (`writtenText`).  A
literal has no sign and no power of ten, so a number has one of its own only if it is
positive zero or a positive number that is written out (`HasLiteral`).  A number without
a percent sign runs into a number right after it; no other token runs into the next
(`staysApart`).

**Written tokens are read back** (`ofString_writtenText`), each number bit for bit.  The
tokens are read one at a time, each in front of the text of those after it, which either
is empty or begins with a symbol after a number without a percent sign
(`endsNumber_writtenText`).
-/

set_option autoImplicit false

namespace PocketCalculator

/-! ## Literals -/

/-- A number that has a literal of its own: positive zero, or a positive number from one
millionth on and below 10²¹. -/
inductive HasLiteral : Binary64 → Prop where
  | zero : HasLiteral (.zero false)
  | range {code : Fin finiteCodes} (low : plainFloor ≤ code.val) (high : code.val < plainCeiling) :
      HasLiteral (.finite false code)

/-- Its literal is what is shown for it. -/
theorem HasLiteral.exists_digits {literal : Binary64} (own : HasLiteral literal) :
    ∃ (whole fraction : Digits) (fractionChars : List Char), whole ≠ [] ∧
      Token.Fraction fractionChars fraction ∧
      resultText literal = String.ofList (whole.toChars ++ fractionChars) ∧
      Numeral.toBinary64 { whole, fraction } = literal := by
  cases own with
  | zero => exact ⟨[0], [], [], List.cons_ne_nil _ _, .absent, rfl, toBinary64_zero⟩
  | range low high => exact resultText_of_range false low high

/-- These are the numbers without a minus sign that are written out. -/
theorem hasLiteral_finite {negative : Bool} {code : Fin finiteCodes} :
    HasLiteral (.finite negative code) ↔
      negative = false ∧ ShownPlain (.finite negative code) := by
  constructor
  · intro own
    cases own with
    | zero => exact ⟨rfl, .zero false⟩
    | range low high => exact ⟨rfl, .range false low high⟩
  · rintro ⟨rfl, plain⟩
    cases plain with
    | zero => exact .zero
    | range _ low high => exact .range low high

instance decidableHasLiteral : DecidablePred HasLiteral
  | .nan => .isFalse nofun
  | .infinite _ => .isFalse nofun
  | .finite _ _ => decidable_of_iff _ hasLiteral_finite.symm

namespace Token

/-! ## Tokens -/

/-- The text of a token. -/
def text : Token → String
  | number literal percent => resultText literal ++ if percent then "%" else ""
  | operator symbol => symbol.symbol

/-- Tokens written one after the other. -/
def writtenText : List Token → String
  | [] => ""
  | token :: rest => token.text ++ writtenText rest

/-- Whether a number of the token has a literal of its own. -/
def IsWritable : Token → Prop
  | number literal _ => HasLiteral literal
  | operator _ => True

instance decidableIsWritable : DecidablePred IsWritable
  | number literal _ => decidableHasLiteral literal
  | operator _ => .isTrue trivial

/-- Whether a token can be written right before another: a number without a percent sign
runs into a number. -/
def staysApart : Token → Token → Bool
  | number _ false, number _ _ => false
  | _, _ => true

theorem percentMark_written (percent : Bool) :
    PercentMark (if percent then "%" else "").toList percent := by
  cases percent with
  | false => exact .absent
  | true => exact .sign

/-- The text after a number without a percent sign does not go on with it. -/
theorem endsNumber_writtenText {literal : Binary64} {rest : List Token}
    (apart : ∀ next ∈ rest.head?, staysApart (.number literal false) next = true) :
    endsNumber (writtenText rest).toList = true := by
  cases rest with
  | nil => rfl
  | cons next later =>
      have here := apart next rfl
      cases next with
      | number other percent => contradiction
      | operator symbol =>
          rw [writtenText, text, String.toList_append, Operator.symbol, String.toList_ofList]
          exact endsNumber_of_separates (separates_symbolChars symbol _)

/-- One written token is read in front of the text of the tokens after it. -/
theorem ofString_text_append {token : Token} {rest : List Token} (writable : token.IsWritable)
    (apart : ∀ next ∈ rest.head?, staysApart token next = true) :
    ofString (token.text ++ writtenText rest) = token :: ofString (writtenText rest) := by
  rw [ofString, String.toList_append]
  cases token with
  | operator symbol =>
      rw [text, Operator.symbol, String.toList_ofList]
      exact ofChars_symbolChars_append symbol _
  | number literal percent =>
      obtain ⟨whole, fraction, fractionChars, nonempty, fractional, shown, reads⟩ :=
        HasLiteral.exists_digits writable
      have ends : percent = false → endsNumber (writtenText rest).toList = true := by
        rintro rfl
        exact endsNumber_writtenText apart
      rw [text, String.toList_append, shown, String.toList_ofList,
        ofChars_written nonempty fractional (percentMark_written percent) ends, reads]
      rfl

/-- **Written tokens are read back.** -/
theorem ofString_writtenText {tokens : List Token}
    (writable : ∀ token ∈ tokens, token.IsWritable)
    (apart : tokens.IsChain fun token next => staysApart token next = true) :
    ofString (writtenText tokens) = tokens := by
  induction tokens with
  | nil => exact ofChars_nil
  | cons token rest ih =>
      obtain ⟨first, later⟩ := List.isChain_cons.mp apart
      rw [writtenText, ofString_text_append (writable token List.mem_cons_self) first,
        ih (fun other member => writable other (List.mem_cons_of_mem _ member)) later]

/-- A percent sign between two numbers, a row of operators, and both ends of the range. -/
def adjacentTokens : List Token :=
  [.number (.ofNat 5) true, .number ((Binary64.ofNat 1).div (.ofNat (10 ^ 6))) false,
    .operator .modulo, .operator .subtract, .number (.zero false) true,
    .number (.ofNat (10 ^ 20)) false]

theorem ofString_writtenText_adjacent :
    (∀ token ∈ adjacentTokens, token.IsWritable) ∧
      (adjacentTokens.IsChain fun token next => staysApart token next = true) ∧
      ofString (writtenText adjacentTokens) = adjacentTokens := by
  have writable : ∀ token ∈ adjacentTokens, token.IsWritable := by decide +kernel
  have apart : adjacentTokens.IsChain fun token next => staysApart token next = true := by decide
  exact ⟨writable, apart, ofString_writtenText writable apart⟩

end Token
end PocketCalculator
