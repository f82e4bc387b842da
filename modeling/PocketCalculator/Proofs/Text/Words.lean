import PocketCalculator.Text.Blank

/-!
# Words and line breaks

A blank ends a word, so the words of a text are those before a blank and those after it
(`wordsOfChars_append_blank`).  Blanks at the ends of a text belong to no word
(`words_trim`), and **the words of a text are the words of its lines in turn**
(`words_lines`): where the line breaks stand does not matter to them.
-/

set_option autoImplicit false

namespace PocketCalculator
namespace Text

theorem wordsOfChars_ne_nil {text : List Char} (starts : startsWord text = true) :
    wordsOfChars text ≠ [] := by
  cases text with
  | nil => contradiction
  | cons c rest =>
      have solid : isBlank c = false := (Bool.not_eq_true' (isBlank c)).mp starts
      rw [wordsOfChars, solid, if_neg Bool.false_ne_true]
      split
      · split <;> exact List.cons_ne_nil _ _
      · exact List.cons_ne_nil _ _

/-- Whether a word goes on does not depend on what follows a blank. -/
theorem startsWord_append_blank (first rest : List Char) {blank : Char}
    (ends : isBlank blank = true) :
    startsWord (first ++ blank :: rest) = startsWord first := by
  cases first with
  | nil => exact congrArg Bool.not ends
  | cons c first => rfl

/-- **A blank ends a word.** -/
theorem wordsOfChars_append_blank (first rest : List Char) {blank : Char}
    (ends : isBlank blank = true) :
    wordsOfChars (first ++ blank :: rest) = wordsOfChars first ++ wordsOfChars rest := by
  induction first with
  | nil =>
      show wordsOfChars (blank :: rest) = wordsOfChars rest
      rw [wordsOfChars, if_pos ends]
  | cons c first ih =>
      rw [List.cons_append, wordsOfChars, wordsOfChars, ih, startsWord_append_blank first rest ends]
      split
      · rfl
      · split
        · rename_i starts
          obtain ⟨word, others, found⟩ := List.exists_cons_of_ne_nil (wordsOfChars_ne_nil starts)
          rw [found]
          rfl
        · rfl

/-- Blanks at the end of a text belong to no word. -/
theorem wordsOfChars_append_blanks (text : List Char) {blanks : List Char}
    (all : ∀ c ∈ blanks, isBlank c = true) : wordsOfChars (text ++ blanks) = wordsOfChars text := by
  have none : wordsOfChars blanks = [] := by
    induction blanks with
    | nil => rfl
    | cons c rest ih =>
        rw [wordsOfChars, if_pos (all c List.mem_cons_self)]
        exact ih fun later member => all later (List.mem_cons_of_mem c member)
  cases blanks with
  | nil => rw [List.append_nil]
  | cons c rest =>
      have ends : isBlank c = true := all c List.mem_cons_self
      rw [wordsOfChars, if_pos ends] at none
      rw [wordsOfChars_append_blank text rest ends, none, List.append_nil]

/-- Blanks in front of a text belong to no word. -/
theorem wordsOfChars_dropWhile (text : List Char) :
    wordsOfChars (text.dropWhile isBlank) = wordsOfChars text := by
  induction text with
  | nil => rfl
  | cons c rest ih =>
      rw [List.dropWhile_cons]
      split
      · rename_i blank
        rw [ih, wordsOfChars, if_pos blank]
      · rfl

theorem wordsOfChars_dropBlankEnd (text : List Char) :
    wordsOfChars (dropBlankEnd text) = wordsOfChars text := by
  have blanks : ∀ c ∈ (text.reverse.takeWhile isBlank).reverse, isBlank c = true := by
    intro c member
    exact List.all_eq_true.mp List.all_takeWhile c (List.mem_reverse.mp member)
  have parts : dropBlankEnd text ++ (text.reverse.takeWhile isBlank).reverse = text := by
    rw [dropBlankEnd, ← List.reverse_append, List.takeWhile_append_dropWhile, List.reverse_reverse]
  calc wordsOfChars (dropBlankEnd text)
      = wordsOfChars (dropBlankEnd text ++ (text.reverse.takeWhile isBlank).reverse) :=
        (wordsOfChars_append_blanks _ blanks).symm
    _ = wordsOfChars text := congrArg wordsOfChars parts

/-- **Trimming a text keeps its words.** -/
theorem words_trim (text : String) : words (trim text) = words text := by
  rw [words, trim, String.toList_ofList, wordsOfChars_dropBlankEnd, wordsOfChars_dropWhile, words]

/-- **The words of a text are the words of its lines in turn.** -/
theorem words_lines (text : String) :
    words text = (text.toList.splitOn '\n').flatMap fun line => words (String.ofList line) := by
  have joined : ∀ lines : List (List Char),
      wordsOfChars (['\n'].intercalate lines) = lines.flatMap wordsOfChars := by
    intro lines
    induction lines with
    | nil => rfl
    | cons line rest ih =>
        cases rest with
        | nil => simp
        | cons next others =>
            rw [List.intercalate_cons_cons, List.append_assoc, List.singleton_append,
              wordsOfChars_append_blank _ _ (by decide), ih]
            rfl
  have whole := joined (text.toList.splitOn '\n')
  rw [List.intercalate_splitOn] at whole
  simp only [words, String.toList_ofList, whole, List.map_flatMap]

end Text
end PocketCalculator
