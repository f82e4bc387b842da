import PocketCalculator.Json.Basic

/-!
# Forms of values in JSON

How the domain's types are read from JSON values.

* A structure is an object with its fields in any order, or an array of exactly
  its fields in their order.  Each field stands once; other members of the object
  are passed over, but their names must be texts.
* A choice is its name if it holds nothing, or an object with its name and what
  it holds as the only member; one that holds nothing may hold `null` there.
-/

set_option autoImplicit false

namespace PocketCalculator
namespace Json

/-! ## Plain values -/

/-- The text that a value is. -/
def text? : Json → Option String
  | string content => content
  | _ => none

/-- The truth value that a value is. -/
def bool? : Json → Option Bool
  | bool value => some value
  | _ => none

/-! ## Structures -/

/-- The value of the one member with the given name. -/
def member? (members : List (Option String × Json)) (name : String) : Option Json :=
  match members.filter fun member => member.1 == some name with
  | [member] => some member.2
  | _ => none

/-- The values of the fields of a structure, in the order of the given names. -/
def fields? (names : List String) : Json → Option (List Json)
  | array elements => if elements.length = names.length then some elements else none
  | object members =>
      if members.all fun member => member.1.isSome then names.mapM (member? members) else none
  | _ => none

/-! ## Choices -/

/-- The name of a choice and what it holds, if anything is said of that. -/
def choice? : Json → Option (String × Option Json)
  | string (some name) => some (name, none)
  | object [(some name, content)] => some (name, some content)
  | _ => none

/-- The name of a choice that holds nothing. -/
def plainChoice? (json : Json) : Option String :=
  match choice? json with
  | some (name, none) => some name
  | some (name, some null) => some name
  | _ => none

/-- The member of a list that a choice names. -/
def named? {α : Type} (all : List α) (name : α → String) (json : Json) : Option α :=
  (plainChoice? json).bind fun given => all.find? fun candidate => name candidate == given

/-- A choice that holds a value. -/
def holding (name : String) (content : Json) : Json := record [(name, content)]

end Json
end PocketCalculator
