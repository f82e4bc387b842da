/-!
# Blanks and words

The characters with the Unicode property `White_Space`, and what the program does
with them: a text is trimmed of the blanks at its ends and divided into words
between blanks.
-/

set_option autoImplicit false

namespace PocketCalculator
namespace Text

/-- The ranges of code points with the property `White_Space`. -/
def blankRanges : List (Nat × Nat) :=
  [(0x0009, 0x000D), (0x0020, 0x0020), (0x0085, 0x0085), (0x00A0, 0x00A0), (0x1680, 0x1680),
   (0x2000, 0x200A), (0x2028, 0x2029), (0x202F, 0x202F), (0x205F, 0x205F), (0x3000, 0x3000)]

/-- Whether a character is a blank. -/
def isBlank (c : Char) : Bool :=
  blankRanges.any fun range => range.1 ≤ c.toNat && c.toNat ≤ range.2

/-- The characters without the blanks at their end. -/
def dropBlankEnd (text : List Char) : List Char :=
  (text.reverse.dropWhile isBlank).reverse

/-- A text without the blanks at its ends. -/
def trim (text : String) : String :=
  String.ofList (dropBlankEnd (text.toList.dropWhile isBlank))

/-- Whether a word goes on at the front of the characters. -/
def startsWord : List Char → Bool
  | [] => false
  | c :: _ => !isBlank c

/-- The words between blanks. -/
def wordsOfChars : List Char → List (List Char)
  | [] => []
  | c :: rest =>
      if isBlank c then wordsOfChars rest
      else if startsWord rest then
        match wordsOfChars rest with
        | [] => [[c]]
        | word :: others => (c :: word) :: others
      else [c] :: wordsOfChars rest

/-- The words of a text. -/
def words (text : String) : List String := (wordsOfChars text.toList).map String.ofList

/-- Whether two texts are equal up to the case of ASCII letters. -/
def sameLetters (left right : String) : Bool :=
  left.toList.map Char.toLower == right.toList.map Char.toLower

/-- A blank belongs to no word. -/
theorem not_isBlank_of_mem_words {text word : List Char} (member : word ∈ wordsOfChars text)
    {c : Char} (letter : c ∈ word) : isBlank c = false := by
  induction text generalizing word c with
  | nil => simp [wordsOfChars] at member
  | cons head rest ih =>
      unfold wordsOfChars at member
      split at member
      · exact ih member letter
      · rename_i solid
        have solid : isBlank head = false := by simpa using solid
        split at member
        · split at member
          · simp only [List.mem_singleton] at member
            subst member
            simp only [List.mem_singleton] at letter
            exact letter ▸ solid
          · rename_i first others found
            rcases List.mem_cons.mp member with rfl | later
            · rcases List.mem_cons.mp letter with rfl | inner
              · exact solid
              · exact ih (found ▸ List.mem_cons_self) inner
            · exact ih (found ▸ List.mem_cons_of_mem _ later) letter
        · rcases List.mem_cons.mp member with rfl | later
          · simp only [List.mem_singleton] at letter
            exact letter ▸ solid
          · exact ih later letter

end Text
end PocketCalculator
