import PocketCalculator.Number.Rounding

/-!
# Digits and written numerals

A numeral is a decimal number as it is written: a sign, whole digits, fraction
digits and a power of ten.  It is the common form of the numbers that are read
from an expression, read from stored text, and written to either.  `Numeral.text`
writes it; `Numeral.ratio` is the number that it denotes.
-/

set_option autoImplicit false

namespace PocketCalculator

/-! ## Digits -/

/-- A decimal digit. -/
abbrev Digit := Fin 10

/-- The digit that a character writes; only the ten ASCII digits do. -/
def Digit.ofChar? (c : Char) : Option Digit :=
  if h : 48 ≤ c.toNat ∧ c.toNat < 58 then some ⟨c.toNat - 48, by omega⟩ else none

/-- The character that writes a digit. -/
def Digit.toChar (digit : Digit) : Char := Char.ofNat (48 + digit.val)

/-- Reading the character of a digit gives the digit. -/
theorem Digit.ofChar?_toChar :
    ∀ digit : Digit, Digit.ofChar? (Digit.toChar digit) = some digit := by
  decide

/-- A row of digits, the most significant first. -/
abbrev Digits := List Digit

namespace Digits

/-- The number that a row of digits denotes. -/
def value (digits : Digits) : Nat :=
  digits.foldl (fun total digit => 10 * total + digit.val) 0

/-- The digits of a natural number, without superfluous leading zeros. -/
def ofNat (n : Nat) : Digits :=
  if h : n < 10 then [⟨n, h⟩]
  else ofNat (n / 10) ++ [⟨n % 10, Nat.mod_lt n (by decide)⟩]
termination_by n
decreasing_by omega

/-- The characters that write a row of digits. -/
def toChars (digits : Digits) : List Char := digits.map Digit.toChar

/-- The longest row of digits at the front of a text, and the text after it. -/
def run : List Char → Digits × List Char
  | [] => ([], [])
  | c :: rest =>
      match Digit.ofChar? c with
      | some digit =>
          let (digits, after) := run rest
          (digit :: digits, after)
      | none => ([], c :: rest)

theorem value_append_singleton (digits : Digits) (digit : Digit) :
    value (digits ++ [digit]) = 10 * value digits + digit.val := by
  simp [value, List.foldl_append]

/-- The digits of a number denote it. -/
theorem value_ofNat (n : Nat) : value (ofNat n) = n := by
  induction n using Nat.strongRecOn with
  | _ n ih =>
      rw [ofNat]
      split
      · simp [value]
      · rw [value_append_singleton, ih (n / 10) (by omega)]
        simp only
        omega

theorem ofNat_ne_nil (n : Nat) : ofNat n ≠ [] := by
  rw [ofNat]
  split <;> simp

/-- Nothing is lost: the digits and the text after them make up the text. -/
theorem run_append (text : List Char) :
    toChars (run text).1 ++ (run text).2 = text := by
  induction text with
  | nil => rfl
  | cons c rest ih =>
      unfold run
      split
      · rename_i digit found
        have same : Digit.toChar digit = c := by
          unfold Digit.ofChar? at found
          split at found
          · rename_i bounds
            injection found with found
            subst found
            unfold Digit.toChar
            simp only
            rw [Nat.add_sub_cancel' bounds.1]
            exact Char.ofNat_toNat c
          · contradiction
        simp only [toChars, List.map_cons, List.cons_append, List.cons.injEq]
        exact ⟨same, ih⟩
      · rfl

/-- The text after a row of digits is no longer than the text. -/
theorem run_rest_length (text : List Char) :
    (run text).1.length + (run text).2.length = text.length := by
  have whole := congrArg List.length (run_append text)
  simpa [toChars] using whole

end Digits

/-- The decimal spelling of a natural number. -/
def decimalText (n : Nat) : String := String.ofList (Digits.ofNat n).toChars

/-! ## Numerals -/

/-- A power of ten as it is written. -/
structure Exponent where
  /-- Whether the power is negative. -/
  negative : Bool
  /-- The digits of its size. -/
  digits : Digits
deriving DecidableEq, Repr

/-- A decimal number as it is written. -/
structure Numeral where
  /-- Whether a minus sign is written. -/
  negative : Bool := false
  /-- The digits before the point. -/
  whole : Digits
  /-- The digits after the point; without any, no point is written. -/
  fraction : Digits := []
  /-- The power of ten, if one is written. -/
  exponent : Option Exponent := none
deriving DecidableEq, Repr

namespace Exponent

/-- The exponent of a power of ten, written with the fewest digits. -/
def ofInt (value : Int) : Exponent :=
  { negative := decide (value < 0), digits := Digits.ofNat value.natAbs }

/-- An exponent is written with its sign, also when it is positive. -/
def toChars (exponent : Exponent) : List Char :=
  'e' :: (if exponent.negative then '-' else '+') :: exponent.digits.toChars

end Exponent

namespace Numeral

/-- The numeral of a natural number. -/
def ofNat (n : Nat) : Numeral := { whole := Digits.ofNat n }

/-- The characters of a numeral. -/
def toChars (numeral : Numeral) : List Char :=
  (if numeral.negative then ['-'] else [])
    ++ numeral.whole.toChars
    ++ (if numeral.fraction.isEmpty then [] else '.' :: numeral.fraction.toChars)
    ++ (numeral.exponent.map Exponent.toChars).getD []

/-- The written form of a numeral. -/
def text (numeral : Numeral) : String := String.ofList numeral.toChars

/-- The magnitude that a numeral denotes, as a numerator and a denominator. -/
def ratio (numeral : Numeral) : Nat × Nat :=
  let significand := Digits.value (numeral.whole ++ numeral.fraction)
  let places := Nat.pow 10 numeral.fraction.length
  match numeral.exponent with
  | none => (significand, places)
  | some exponent =>
      let power := Nat.pow 10 (Digits.value exponent.digits)
      if exponent.negative then (significand, places * power)
      else (significand * power, places)

/-- The binary64 number nearest to a numeral. -/
def toBinary64 (numeral : Numeral) : Binary64 :=
  let (numerator, denominator) := numeral.ratio
  Binary64.nearest numeral.negative (numerator * unitsPerOne) denominator

end Numeral

end PocketCalculator
