import PocketCalculator.Proofs.Display.Typing
import PocketCalculator.Proofs.Number.ResultLetters

/-!
# Coherent displays

The text of the display and the flag beside it agree on every display that messages
lead to.  A flagged text stands for an outcome.  A text without the flag is made of the
texts of keys and of results, and none of these has the last letter of the word for an
error: it is not that word, and what remains of it when characters are taken back is
not either.

**A display is coherent after every row of messages** (`coherent_run`).  The display of
an error is then told by its text alone, and **a key that is no digit and Equals leave
it as it is** (`run_failed`).
-/

set_option autoImplicit false

namespace PocketCalculator

namespace Message

/-- Whether the message is a key that starts no new entry. -/
def continues : Message → Bool
  | press key => !key.isNumeric
  | _ => false

/-- Whether the message takes no error off the display. -/
def keepsError : Message → Bool
  | equals => true
  | message => message.continues

theorem keepsError_of_continues {message : Message} (continues : message.continues = true) :
    message.keepsError = true := by
  cases message with
  | press key => exact continues
  | equals => rfl
  | clear => contradiction
  | delete => contradiction

end Message

namespace DisplayState

/-! ## The display of an error -/

/-- The display after an evaluation without a value. -/
def failed : DisplayState := { text := errorText, isResult := true }

/-- The word for an error has no value. -/
theorem evaluate_errorText : Evaluation.evaluate errorText = .error .invalidExpression := by
  decide +kernel

/-- The text of an outcome is the word for an error exactly if there is no value. -/
theorem outcomeText_eq_errorText_iff (outcome : Outcome) :
    outcomeText outcome = errorText ↔ ∃ failure, outcome = .error failure := by
  cases outcome with
  | error failure => exact iff_of_true rfl ⟨failure, rfl⟩
  | ok value => exact iff_of_false (resultText_ne_errorText value) nofun

/-- On the word for an error a key that is no digit has no effect. -/
theorem appendValue_errorText {state : DisplayState} {key : Key}
    (notNumeric : key.isNumeric = false) (error : state.text = errorText) :
    state.appendValue key = state := by
  simp [appendValue, notNumeric, error]

/-- Such messages leave the display of an error as it is. -/
theorem update_failed {message : Message} (keeps : message.keepsError = true) :
    (failed.update message).1 = failed := by
  cases message with
  | press key =>
      have notNumeric : key.isNumeric = false := (Bool.not_eq_true' key.isNumeric).mp keeps
      exact appendValue_errorText notNumeric rfl
  | equals => rw [update_equals, failed, evaluate_errorText, outcomeText]
  | clear => contradiction
  | delete => contradiction

/-- **A row of such messages leaves the display of an error as it is.** -/
theorem run_failed {messages : List Message}
    (keep : ∀ message ∈ messages, message.keepsError = true) :
    failed.run messages = failed := by
  induction messages with
  | nil => rfl
  | cons message rest ih =>
      rw [run_cons, update_failed (keep message List.mem_cons_self)]
      exact ih fun later member => keep later (List.mem_cons_of_mem message member)

/-! ## Coherence -/

/-- The text of a display agrees with the flag beside it. -/
structure Coherent (state : DisplayState) : Prop where
  /-- A text without the flag lacks the last letter of the word for an error. -/
  entry : state.isResult = false → 'r' ∉ state.text.toList
  /-- A flagged text stands for an outcome. -/
  result : state.isResult = true → ∃ outcome, state.text = outcomeText outcome

theorem coherent_empty : Coherent empty where
  entry _ := List.not_mem_nil
  result flagged := absurd flagged Bool.false_ne_true

namespace Coherent

variable {state : DisplayState}

/-- A text without the flag is not the word for an error. -/
theorem text_ne_errorText (coherent : Coherent state) (entry : state.isResult = false) :
    state.text ≠ errorText := by
  intro same
  have letter : 'r' ∈ errorText.toList := by decide
  rw [← same] at letter
  exact coherent.entry entry letter

/-- The display with the word for an error is the display of an error. -/
theorem eq_failed (coherent : Coherent state) (error : state.text = errorText) :
    state = failed := by
  cases flag : state.isResult with
  | false => exact absurd error (coherent.text_ne_errorText flag)
  | true =>
      obtain ⟨text, isResult⟩ := state
      rw [failed, ← error, ← flag]

/-- A text other than the word for an error lacks its last letter, flagged or not. -/
theorem letter_notMem (coherent : Coherent state) (noError : state.text ≠ errorText) :
    'r' ∉ state.text.toList := by
  cases flag : state.isResult with
  | false => exact coherent.entry flag
  | true =>
      obtain ⟨outcome, shown⟩ := coherent.result flag
      cases outcome with
      | error failure => exact absurd shown noError
      | ok value =>
          rw [shown]
          exact letter_notMem_resultText value

/-- A text that lacks the letter makes a coherent entry. -/
theorem ofEntry {text : String} (noLetter : 'r' ∉ text.toList) :
    Coherent { text, isResult := false } where
  entry _ := noLetter
  result flagged := absurd flagged Bool.false_ne_true

theorem appendValue (coherent : Coherent state) (key : Key) :
    Coherent (state.appendValue key) := by
  rw [DisplayState.appendValue]
  split
  · exact ofEntry key.letter_notMem_text
  · split
    · exact coherent
    · rename_i fresh ignored
      refine ofEntry ?_
      -- A digit is added to an entry only, any other key to a text that is no error.
      have noError : state.text ≠ errorText := by
        intro error
        have flagged : state.isResult = true := by rw [coherent.eq_failed error, failed]
        cases numeric : key.isNumeric with
        | true => exact fresh (by rw [flagged, numeric]; rfl)
        | false => exact ignored (by rw [error, numeric]; rfl)
      rw [String.toList_append, List.mem_append, not_or]
      exact ⟨coherent.letter_notMem noError, key.letter_notMem_text⟩

theorem calculate (state : DisplayState) : Coherent state.calculate.1 where
  entry unflagged := absurd unflagged nofun
  result _ := ⟨Evaluation.evaluate state.text, rfl⟩

theorem deleteLast (coherent : Coherent state) : Coherent state.deleteLast := by
  cases flag : state.isResult with
  | true =>
      rw [deleteLast_of_result flag]
      exact coherent_empty
  | false =>
      rw [deleteLast_of_entry flag]
      refine ofEntry fun letter => coherent.entry flag ?_
      rw [String.toList_ofList] at letter
      exact List.mem_of_mem_dropLast letter

/-- **A message keeps a display coherent.** -/
theorem update (coherent : Coherent state) (message : Message) :
    Coherent (state.update message).1 := by
  cases message with
  | press key => exact coherent.appendValue key
  | equals => exact calculate state
  | clear => exact coherent_empty
  | delete => exact coherent.deleteLast

theorem run (coherent : Coherent state) (messages : List Message) :
    Coherent (state.run messages) := by
  induction messages generalizing state with
  | nil => exact coherent
  | cons message rest ih => exact ih (coherent.update message)

end Coherent

/-- **A display is coherent after every row of messages.** -/
theorem coherent_run (messages : List Message) : Coherent (empty.run messages) :=
  coherent_empty.run messages

end DisplayState
end PocketCalculator
