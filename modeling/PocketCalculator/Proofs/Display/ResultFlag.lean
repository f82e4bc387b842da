import PocketCalculator.Proofs.Display.Coherence

/-!
# When the display shows an outcome

The flag beside the text is set by Equals alone.  What follows clears it, apart from keys
that are no digits on the word for an error, which have no effect.  So the flag can be
read off the messages (`isResult_run_iff`), and with it the text, which is the outcome
at that Equals (`run_eq_outcome`).

**The flag is set exactly if the last Equals is followed by nothing, or failed and is
followed by keys without effect; the text is then the outcome of that Equals**
(`isResult_determined`).
-/

set_option autoImplicit false

namespace PocketCalculator
namespace DisplayState

/-- The row of messages ends in an Equals whose outcome is still shown: nothing follows
it, or it failed and only keys that are no digits follow. -/
structure EndsInOutcome (messages before after : List Message) : Prop where
  /-- The messages before Equals and after it. -/
  split : messages = before ++ .equals :: after
  /-- Keys that are no digits follow. -/
  continues : ∀ message ∈ after, message.continues = true
  /-- If any follow, Equals failed. -/
  fails : after ≠ [] →
    ∃ failure, Evaluation.evaluate (empty.run before).text = .error failure

/-! ## One message -/

theorem isResult_deleteLast (state : DisplayState) : state.deleteLast.isResult = false := by
  cases flag : state.isResult with
  | false => rw [deleteLast_of_entry flag]
  | true =>
      rw [deleteLast_of_result flag]
      rfl

/-- A message leaves the flag set if it is Equals, or a key without effect on an error. -/
theorem isResult_update_iff {state : DisplayState} (coherent : Coherent state)
    (message : Message) :
    (state.update message).1.isResult = true ↔
      message = .equals ∨ message.continues = true ∧ state = failed := by
  cases message with
  | press key =>
      constructor
      · intro flagged
        refine .inr ?_
        -- A key that has an effect clears the flag, so only the middle branch is left.
        rw [update, appendValue] at flagged
        split at flagged
        · contradiction
        · split at flagged
          · rename_i ignored
            rw [Bool.and_eq_true, beq_iff_eq] at ignored
            exact ⟨ignored.1, coherent.eq_failed ignored.2⟩
          · contradiction
      · rintro (isEquals | ⟨continues, rfl⟩)
        · contradiction
        · rw [update_failed (Message.keepsError_of_continues continues), failed]
  | equals => exact iff_of_true rfl (.inl rfl)
  | clear => simp [update, clearAll, empty, Message.continues]
  | delete => simp [update, isResult_deleteLast, Message.continues]

/-! ## A row of messages -/

/-- The display shows the outcome of the Equals that the messages end in. -/
theorem run_eq_outcome {messages before after : List Message}
    (ends : EndsInOutcome messages before after) :
    empty.run messages =
      { text := outcomeText (Evaluation.evaluate (empty.run before).text), isResult := true } := by
  rw [ends.split, run_append, run_cons, update_equals]
  by_cases last : after = []
  · rw [last, run_nil]
  · obtain ⟨failure, fails⟩ := ends.fails last
    rw [fails]
    exact run_failed fun message member =>
      Message.keepsError_of_continues (ends.continues message member)

/-- A key without effect on an error ends the messages in the same outcome. -/
theorem EndsInOutcome.append_continues {messages before after : List Message}
    (ends : EndsInOutcome messages before after) {message : Message}
    (continues : message.continues = true)
    (fails : ∃ failure, Evaluation.evaluate (empty.run before).text = .error failure) :
    EndsInOutcome (messages ++ [message]) before (after ++ [message]) where
  split := by rw [ends.split, List.append_assoc, List.cons_append]
  continues later member := by
    rcases List.mem_append.mp member with earlier | last
    · exact ends.continues later earlier
    · rw [List.mem_singleton.mp last]
      exact continues
  fails _ := fails

/-- **The flag is set exactly if the messages end in an outcome.** The induction takes the
last message off: it leaves the flag set only if it is Equals or changes nothing. -/
theorem isResult_run_iff (messages : List Message) :
    (empty.run messages).isResult = true ↔
      ∃ before after, EndsInOutcome messages before after := by
  constructor
  · intro flagged
    induction messages using List.reverseRecOn with
    | nil => exact absurd flagged Bool.false_ne_true
    | append_singleton messages message ih =>
        rw [run_append, run_cons, run_nil, isResult_update_iff (coherent_run messages)] at flagged
        rcases flagged with rfl | ⟨continues, shown⟩
        · exact ⟨messages, [], rfl, nofun, absurd rfl⟩
        · obtain ⟨before, after, ends⟩ := ih (by rw [shown, failed])
          have error : outcomeText (Evaluation.evaluate (empty.run before).text) = errorText :=
            congrArg text ((run_eq_outcome ends).symm.trans shown)
          exact ⟨before, after ++ [message], ends.append_continues continues
            ((outcomeText_eq_errorText_iff _).mp error)⟩
  · rintro ⟨before, after, ends⟩
    rw [run_eq_outcome ends]

/-- **The flag and the text of an outcome are determined by the messages.** The flag is set
exactly if the messages end in an Equals after which nothing was typed, or nothing but
keys without effect on its failure.  The text is then the word for an error if that
Equals failed and the value otherwise, and no value is shown as that word.  Without the
flag the text is another. -/
theorem isResult_determined (messages : List Message) :
    ((empty.run messages).isResult = true ↔
        ∃ before after, EndsInOutcome messages before after) ∧
      (∀ before after, EndsInOutcome messages before after →
        (∀ failure, Evaluation.evaluate (empty.run before).text = .error failure →
          (empty.run messages).text = errorText) ∧
        (∀ value, Evaluation.evaluate (empty.run before).text = .ok value →
          (empty.run messages).text = resultText value)) ∧
      (∀ value, resultText value ≠ errorText) ∧
      ((empty.run messages).isResult = false → (empty.run messages).text ≠ errorText) := by
  refine ⟨isResult_run_iff messages, ?_, resultText_ne_errorText,
    (coherent_run messages).text_ne_errorText⟩
  intro before after ends
  rw [run_eq_outcome ends]
  constructor
  · intro failure failed
    rw [failed, outcomeText]
  · intro value evaluated
    rw [evaluated, outcomeText]

end DisplayState
end PocketCalculator
