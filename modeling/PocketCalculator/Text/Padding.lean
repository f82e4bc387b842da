/-!
# Padding

Texts brought to a width by blanks.  The width of a text is the number of its
characters; a text that is wide enough stays as it is.
-/

set_option autoImplicit false

namespace PocketCalculator
namespace Text

/-- The given number of spaces. -/
def spaces (count : Nat) : String := String.ofList (List.replicate count ' ')

/-- The text at the right end of a field of the given width. -/
def padLeft (width : Nat) (text : String) : String :=
  spaces (width - text.length) ++ text

/-- The text in the middle of a field of the given width; a space that cannot be
shared goes to the right. -/
def center (width : Nat) (text : String) : String :=
  let missing := width - text.length
  spaces (missing / 2) ++ text ++ spaces (missing - missing / 2)

theorem length_spaces (count : Nat) : (spaces count).length = count := by
  simp [spaces]

/-- A padded text fills its field. -/
theorem length_padLeft (width : Nat) (text : String) :
    (padLeft width text).length = max width text.length := by
  simp only [padLeft, String.length_append, length_spaces]
  omega

/-- A centred text fills its field. -/
theorem length_center (width : Nat) (text : String) :
    (center width text).length = max width text.length := by
  simp only [center, String.length_append, length_spaces]
  omega

end Text
end PocketCalculator
