import PocketCalculator.Json.Basic

/-!
# Writing JSON

A JSON value is written on one line without blanks.  In strings a quotation mark,
a backslash and the control characters below U+0020 are escaped, with the short
escapes where there are any; all other characters stand for themselves.
-/

set_option autoImplicit false

namespace PocketCalculator
namespace Json

/-! ## Strings -/

/-- The character of a hexadecimal digit, letters in lower case. -/
def hexChar (digit : Nat) : Char :=
  if digit < 10 then Char.ofNat (48 + digit) else Char.ofNat (87 + digit)

/-- The written form of a character inside a string. -/
def escape (c : Char) : List Char :=
  if c = '"' then ['\\', '"']
  else if c = '\\' then ['\\', '\\']
  else if c = '\x08' then ['\\', 'b']
  else if c = '\x0c' then ['\\', 'f']
  else if c = '\n' then ['\\', 'n']
  else if c = '\r' then ['\\', 'r']
  else if c = '\t' then ['\\', 't']
  else if c.toNat < 32 then
    ['\\', 'u', '0', '0', hexChar (c.toNat / 16), hexChar (c.toNat % 16)]
  else [c]

/-- The content of a string without a text is written as half a surrogate pair. -/
def halfPair : List Char := ['\\', 'u', 'd', '8', '0', '0']

/-- A string with its quotation marks. -/
def renderString (content : Option String) : List Char :=
  let inner :=
    match content with
    | some text => text.toList.flatMap escape
    | none => halfPair
  '"' :: inner ++ ['"']

/-! ## Values -/

mutual

/-- The characters of a JSON value. -/
def render : Json → List Char
  | null => ['n', 'u', 'l', 'l']
  | bool true => ['t', 'r', 'u', 'e']
  | bool false => ['f', 'a', 'l', 's', 'e']
  | number numeral => numeral.toChars
  | string content => renderString content
  | array [] => ['[', ']']
  | array (first :: rest) => '[' :: (render first ++ renderElements rest)
  | object [] => ['{', '}']
  | object ((name, value) :: rest) =>
      '{' :: (renderString name ++ ':' :: (render value ++ renderMembers rest))

/-- The elements of an array after the first, and its end. -/
def renderElements : List Json → List Char
  | [] => [']']
  | value :: rest => ',' :: (render value ++ renderElements rest)

/-- The members of an object after the first, and its end. -/
def renderMembers : List (Option String × Json) → List Char
  | [] => ['}']
  | (name, value) :: rest =>
      ',' :: (renderString name ++ ':' :: (render value ++ renderMembers rest))

end

/-- The text of a JSON value. -/
def text (json : Json) : String := String.ofList json.render

end Json
end PocketCalculator
