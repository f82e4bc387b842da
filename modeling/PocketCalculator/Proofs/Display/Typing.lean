import PocketCalculator.Display.State

/-!
# Typing

What a row of keys, Equals and Delete do to the display.  The text of a key never ends in the last
letter of the word for an error, so an entry that keys were typed into is never
that word, and no key is dropped after the first: **typing adds the texts of the
keys** (`run_presses`), and Equals replaces what was typed by its value (`run_typed`).
Delete takes one character off an entry (`deleteLast_of_entry`) and a result as a whole
(`deleteLast_of_result`).
-/

set_option autoImplicit false

namespace PocketCalculator

namespace Key

/-- The text that a row of keys types. -/
def typedText : List Key → String
  | [] => ""
  | key :: rest => key.text ++ typedText rest

theorem typedText_append (first second : List Key) :
    typedText (first ++ second) = typedText first ++ typedText second := by
  induction first with
  | nil => rw [List.nil_append, typedText, String.empty_append]
  | cons key rest ih => rw [List.cons_append, typedText, typedText, ih, String.append_assoc]

theorem toChar_ne_letter (digit : Digit) : Digit.toChar digit ≠ 'r' := by
  revert digit
  decide

/-- No key types the last letter of the word for an error. -/
theorem letter_notMem_text (key : Key) : 'r' ∉ key.text.toList := by
  cases key with
  | digit value =>
      rw [text, decimalText, String.toList_ofList, Digits.toChars, List.mem_map]
      rintro ⟨digit, _, same⟩
      exact toChar_ne_letter digit same
  | decimal => decide
  | percent => decide
  | operator symbol => cases symbol <;> decide

theorem text_toList_ne_nil (key : Key) : key.text.toList ≠ [] := by
  cases key with
  | digit value =>
      rw [text, decimalText, String.toList_ofList, Digits.toChars]
      exact fun empty => Digits.ofNat_ne_nil _ (List.map_eq_nil_iff.mp empty)
  | decimal => decide
  | percent => decide
  | operator symbol => cases symbol <;> decide

end Key

namespace DisplayState

/-- An entry that a key was typed into is not the word for an error. -/
theorem append_text_ne_errorText (entry : String) (key : Key) :
    entry ++ key.text ≠ errorText := by
  intro same
  have last := congrArg (fun text => text.toList.getLast?) same
  have letter : errorText.toList.getLast? = some 'r' := by decide
  have typed : key.text.toList.getLast? = some (key.text.toList.getLast key.text_toList_ne_nil) :=
    List.getLast?_eq_some_getLast _
  rw [String.toList_append, List.getLast?_append, typed, Option.some_or, letter, ← typed] at last
  exact key.letter_notMem_text (List.mem_of_getLast? last)

/-- Away from the word for an error a key that is no digit adds its text. -/
theorem appendValue_of_not_numeric {state : DisplayState} {key : Key}
    (notNumeric : key.isNumeric = false) (noError : state.text ≠ errorText) :
    state.appendValue key = { text := state.text ++ key.text, isResult := false } := by
  simp [appendValue, notNumeric, noError]

/-- In an entry every key adds its text. -/
theorem appendValue_of_entry {state : DisplayState} (entry : state.isResult = false)
    (noError : state.text ≠ errorText) (key : Key) :
    state.appendValue key = { text := state.text ++ key.text, isResult := false } := by
  simp [appendValue, entry, noError]

/-- **Typing adds the texts of the keys.** -/
theorem run_presses {state : DisplayState} (entry : state.isResult = false)
    (noError : state.text ≠ errorText) (keys : List Key) :
    state.run (keys.map Message.press)
      = { text := state.text ++ Key.typedText keys, isResult := false } := by
  induction keys generalizing state with
  | nil =>
      rw [List.map_nil, run_nil, Key.typedText, String.append_empty, ← entry]
  | cons key rest ih =>
      have typed : (state.update (.press key)).1
          = { text := state.text ++ key.text, isResult := false } :=
        appendValue_of_entry entry noError key
      rw [List.map_cons, run_cons, typed, ih rfl (append_text_ne_errorText _ _), Key.typedText,
        String.append_assoc]

/-! ## Equals -/

theorem update_equals (state : DisplayState) :
    state.update .equals =
      ({ text := outcomeText (Evaluation.evaluate state.text), isResult := true },
        some (Evaluation.evaluate state.text)) := rfl

/-- Equals shows the value of the text. -/
theorem run_equals_cons {state : DisplayState} {value : Binary64}
    (evaluated : Evaluation.evaluate state.text = .ok value) (messages : List Message) :
    state.run (.equals :: messages) =
      ({ text := resultText value, isResult := true } : DisplayState).run messages := by
  rw [run_cons, update_equals, evaluated, outcomeText]

/-- **An expression that is typed on a new display is replaced by its value.** -/
theorem run_typed {keys : List Key} {value : Binary64}
    (evaluated : Evaluation.evaluate (Key.typedText keys) = .ok value) :
    empty.run (keys.map Message.press ++ [.equals]) =
      { text := resultText value, isResult := true } := by
  have noError : empty.text ≠ errorText := by decide
  have typed : (empty.run (keys.map Message.press)).text = Key.typedText keys := by
    rw [run_presses rfl noError]
    exact String.empty_append
  rw [← typed] at evaluated
  rw [run_append, run_equals_cons evaluated, run_nil]

/-! ## Delete -/

/-- An entry loses its last character. -/
theorem deleteLast_of_entry {state : DisplayState} (entry : state.isResult = false) :
    state.deleteLast = { text := String.ofList state.text.toList.dropLast, isResult := false } := by
  rw [deleteLast, entry, if_neg Bool.false_ne_true]

/-- A result goes as a whole. -/
theorem deleteLast_of_result {state : DisplayState} (result : state.isResult = true) :
    state.deleteLast = empty := by
  rw [deleteLast, if_pos result, clearAll]

end DisplayState

end PocketCalculator
