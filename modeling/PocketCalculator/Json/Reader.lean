import PocketCalculator.Json.Basic

/-!
# Reading JSON

The whole text is one JSON value with blanks around it and nothing after it.  The
rules are those of the format without extensions: no leading zeros, no comma
before an end, no bare control characters in strings.

Reading goes down into arrays and objects with a bound on its depth; the length
of the text is always enough.
-/

set_option autoImplicit false

namespace PocketCalculator
namespace Json

/-! ## Blanks -/

/-- The blanks of the format. -/
def isBlank (c : Char) : Bool := c == ' ' || c == '\n' || c == '\t' || c == '\r'

/-- The text from its first character that is no blank. -/
def skipBlanks (text : List Char) : List Char := text.dropWhile isBlank

/-! ## Strings -/

/-- A unit of a string: a character that stands for itself or has a short
escape, or the number of a UTF-16 code unit. -/
inductive StringUnit where
  | char (c : Char)
  | unit (code : Nat)
deriving DecidableEq, Repr

/-- The value of a hexadecimal digit. -/
def hexValue? (c : Char) : Option Nat :=
  if '0' ≤ c ∧ c ≤ '9' then some (c.toNat - 48)
  else if 'a' ≤ c ∧ c ≤ 'f' then some (c.toNat - 87)
  else if 'A' ≤ c ∧ c ≤ 'F' then some (c.toNat - 55)
  else none

/-- The number that four hexadecimal digits write. -/
def codeUnit? (first second third fourth : Char) : Option Nat := do
  return ((← hexValue? first) * 16 + (← hexValue? second)) * 256 +
    ((← hexValue? third) * 16 + (← hexValue? fourth))

/-- The character of a short escape. -/
def shortEscape? : Char → Option Char
  | '"' => some '"'
  | '\\' => some '\\'
  | '/' => some '/'
  | 'b' => some '\x08'
  | 'f' => some '\x0c'
  | 'n' => some '\n'
  | 'r' => some '\r'
  | 't' => some '\t'
  | _ => none

/-- The units of a string after its opening quotation mark, and the text after
its closing one. -/
def stringUnits? : List Char → Option (List StringUnit × List Char)
  | [] => none
  | '"' :: rest => some ([], rest)
  | '\\' :: 'u' :: first :: second :: third :: fourth :: rest => do
      let code ← codeUnit? first second third fourth
      let (units, after) ← stringUnits? rest
      return (.unit code :: units, after)
  | '\\' :: escaped :: rest => do
      let c ← shortEscape? escaped
      let (units, after) ← stringUnits? rest
      return (.char c :: units, after)
  | c :: rest =>
      if c = '\\' ∨ c.toNat < 32 then none
      else do
        let (units, after) ← stringUnits? rest
        return (.char c :: units, after)

/-- Whether a code unit is the first of a surrogate pair. -/
def isLeading (code : Nat) : Bool := 0xD800 ≤ code && code < 0xDC00

/-- Whether a code unit is the second of a surrogate pair. -/
def isTrailing (code : Nat) : Bool := 0xDC00 ≤ code && code < 0xE000

/-- The characters of the units of a string, the two halves of a surrogate pair
taken together; there are none if a half stands alone. -/
def joinUnits? : List StringUnit → Option (List Char)
  | [] => some []
  | .char c :: rest => (joinUnits? rest).map (c :: ·)
  | .unit leading :: .unit trailing :: rest =>
      if isLeading leading then
        if isTrailing trailing then
          let code := 0x10000 + (leading - 0xD800) * 0x400 + (trailing - 0xDC00)
          (joinUnits? rest).map (Char.ofNat code :: ·)
        else none
      else if isTrailing leading then none
      else (joinUnits? (.unit trailing :: rest)).map (Char.ofNat leading :: ·)
  | .unit code :: rest =>
      if isLeading code || isTrailing code then none
      else (joinUnits? rest).map (Char.ofNat code :: ·)

/-- A string after its opening quotation mark: its content and the text after it. -/
def readString? (text : List Char) : Option (Option String × List Char) :=
  (stringUnits? text).map fun (units, rest) => ((joinUnits? units).map String.ofList, rest)

/-! ## Numbers -/

/-- The whole digits of a number: zero alone, or digits that do not start with it. -/
def wholeDigits? (text : List Char) : Option (Digits × List Char) :=
  match Digits.run text with
  | ([], _) => none
  | (0 :: _ :: _, _) => none
  | (digits, rest) => some (digits, rest)

/-- The fraction digits of a number, with a point in front if there are any. -/
def fractionDigits? : List Char → Option (Digits × List Char)
  | '.' :: rest =>
      match Digits.run rest with
      | ([], _) => none
      | (digits, after) => some (digits, after)
  | text => some ([], text)

/-- The sign of an exponent, which may be left out. -/
def exponentSign : List Char → Bool × List Char
  | '+' :: rest => (false, rest)
  | '-' :: rest => (true, rest)
  | text => (false, text)

/-- The sign and the digits of an exponent after its mark. -/
def signedDigits? (text : List Char) : Option (Exponent × List Char) :=
  let (negative, digitsText) := exponentSign text
  match Digits.run digitsText with
  | ([], _) => none
  | (digits, rest) => some ({ negative, digits }, rest)

/-- The exponent of a number, with its mark in front if there is one. -/
def exponent? : List Char → Option (Option Exponent × List Char)
  | 'e' :: rest => (signedDigits? rest).map fun (exponent, after) => (some exponent, after)
  | 'E' :: rest => (signedDigits? rest).map fun (exponent, after) => (some exponent, after)
  | text => some (none, text)

/-- A number after its sign. -/
def unsigned? (negative : Bool) (text : List Char) : Option (Numeral × List Char) := do
  let (whole, afterWhole) ← wholeDigits? text
  let (fraction, afterFraction) ← fractionDigits? afterWhole
  let (exponent, rest) ← exponent? afterFraction
  return ({ negative, whole, fraction, exponent }, rest)

/-- A number and the text after it. -/
def number? : List Char → Option (Numeral × List Char)
  | '-' :: rest => unsigned? true rest
  | text => unsigned? false text

/-! ## Values -/

mutual

/-- A value at the start of the text, blanks before it allowed, and the text
after it; arrays and objects may be nested as deep as the bound says. -/
def readValue? : Nat → List Char → Option (Json × List Char)
  | 0, _ => none
  | depth + 1, text =>
      match skipBlanks text with
      | 'n' :: 'u' :: 'l' :: 'l' :: rest => some (null, rest)
      | 't' :: 'r' :: 'u' :: 'e' :: rest => some (bool true, rest)
      | 'f' :: 'a' :: 'l' :: 's' :: 'e' :: rest => some (bool false, rest)
      | '"' :: rest => (readString? rest).map fun (content, after) => (string content, after)
      | '[' :: rest =>
          match skipBlanks rest with
          | ']' :: after => some (array [], after)
          | inner => do
              let (first, afterFirst) ← readValue? depth inner
              let (others, after) ← readElements? depth afterFirst
              return (array (first :: others), after)
      | '{' :: rest =>
          match skipBlanks rest with
          | '}' :: after => some (object [], after)
          | inner => do
              let (first, afterFirst) ← readMember? depth inner
              let (others, after) ← readMembers? depth afterFirst
              return (object (first :: others), after)
      | other => (number? other).map fun (numeral, after) => (number numeral, after)

/-- The elements of an array after the first, up to its end. -/
def readElements? : Nat → List Char → Option (List Json × List Char)
  | 0, _ => none
  | depth + 1, text =>
      match skipBlanks text with
      | ']' :: rest => some ([], rest)
      | ',' :: rest => do
          let (value, afterValue) ← readValue? depth rest
          let (others, after) ← readElements? depth afterValue
          return (value :: others, after)
      | _ => none

/-- One member of an object. -/
def readMember? : Nat → List Char → Option ((Option String × Json) × List Char)
  | 0, _ => none
  | depth + 1, text =>
      match skipBlanks text with
      | '"' :: rest => do
          let (name, afterName) ← readString? rest
          match skipBlanks afterName with
          | ':' :: valueText =>
              let (value, after) ← readValue? depth valueText
              return ((name, value), after)
          | _ => none
      | _ => none

/-- The members of an object after the first, up to its end. -/
def readMembers? : Nat → List Char → Option (List (Option String × Json) × List Char)
  | 0, _ => none
  | depth + 1, text =>
      match skipBlanks text with
      | '}' :: rest => some ([], rest)
      | ',' :: rest => do
          let (member, afterMember) ← readMember? depth rest
          let (others, after) ← readMembers? depth afterMember
          return (member :: others, after)
      | _ => none

end

/-- The value that a whole text writes. -/
def readChars? (text : List Char) : Option Json :=
  match readValue? (text.length + 1) text with
  | some (json, rest) => if (skipBlanks rest).isEmpty then some json else none
  | none => none

/-- The value that a whole string writes. -/
def read? (text : String) : Option Json := readChars? text.toList

end Json
end PocketCalculator
