import PocketCalculator.Number.Numeral

/-!
# JSON values

A JSON value keeps numbers as they are written and the members of an object in
their order, repeated names included.  What a number or an object means is left
to the reader of a particular form.
-/

set_option autoImplicit false

namespace PocketCalculator

/-- A JSON value.  The content of a string is absent if one of its escapes names
half of a surrogate pair: such a string can be passed over but is no text. -/
inductive Json where
  | null
  | bool (value : Bool)
  | number (numeral : Numeral)
  | string (content : Option String)
  | array (elements : List Json)
  | object (members : List (Option String × Json))
deriving Inhabited

namespace Json

/-- A text as a JSON value. -/
def ofText (text : String) : Json := string (some text)

/-- A natural number as a JSON value. -/
def ofNat (n : Nat) : Json := number (Numeral.ofNat n)

/-- An object with the given names and values. -/
def record (members : List (String × Json)) : Json :=
  object (members.map fun member => (some member.1, member.2))

end Json

end PocketCalculator
