import PocketCalculator.Display.State
import PocketCalculator.Proofs.Number.Digits

/-!
# The display is one line

Keys and results have no line break in their texts (`Key.newline_notMem_text`,
`newline_notMem_resultText`), and taking characters back brings none in.  **Whatever messages
are sent to a display, its text is one line** (`DisplayState.newline_notMem_run`).
-/

set_option autoImplicit false

namespace PocketCalculator

theorem Key.newline_notMem_text (key : Key) : '\n' ∉ key.text.toList := by
  cases key with
  | digit value => exact newline_notMem_decimalText value.toNat
  | decimal => decide
  | percent => decide
  | operator symbol => cases symbol <;> decide

theorem newline_notMem_resultText (value : Binary64) : '\n' ∉ (resultText value).toList := by
  cases value with
  | nan => decide
  | infinite negative => cases negative <;> decide
  | finite negative code =>
      rw [resultText, Numeral.text, String.toList_ofList]
      exact Numeral.newline_notMem_toChars _

namespace DisplayState

theorem newline_notMem_outcomeText (outcome : Outcome) : '\n' ∉ (outcomeText outcome).toList := by
  cases outcome with
  | ok value => exact newline_notMem_resultText value
  | error failure => exact (by decide : '\n' ∉ errorText.toList)

variable {state : DisplayState}

theorem newline_notMem_appendValue (oneLine : '\n' ∉ state.text.toList) (key : Key) :
    '\n' ∉ (state.appendValue key).text.toList := by
  rw [appendValue]
  split
  · exact key.newline_notMem_text
  · split
    · exact oneLine
    · rw [String.toList_append, List.mem_append, not_or]
      exact ⟨oneLine, key.newline_notMem_text⟩

theorem newline_notMem_deleteLast (oneLine : '\n' ∉ state.text.toList) :
    '\n' ∉ state.deleteLast.text.toList := by
  rw [deleteLast]
  split
  · exact List.not_mem_nil
  · rw [String.toList_ofList]
    exact fun member => oneLine (List.mem_of_mem_dropLast member)

/-- **A message keeps the text of a display on one line.** -/
theorem newline_notMem_update (oneLine : '\n' ∉ state.text.toList) (message : Message) :
    '\n' ∉ (state.update message).1.text.toList := by
  cases message with
  | press key => exact newline_notMem_appendValue oneLine key
  | equals => exact newline_notMem_outcomeText _
  | clear => exact List.not_mem_nil
  | delete => exact newline_notMem_deleteLast oneLine

/-- **The text of a display is one line after every row of messages.** -/
theorem newline_notMem_run (oneLine : '\n' ∉ state.text.toList) (messages : List Message) :
    '\n' ∉ (state.run messages).text.toList := by
  induction messages generalizing state with
  | nil => exact oneLine
  | cons message rest ih => exact ih (newline_notMem_update oneLine message)

end DisplayState
end PocketCalculator
