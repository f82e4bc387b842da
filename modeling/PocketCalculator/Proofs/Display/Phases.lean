import PocketCalculator.Proofs.Display.Coherence

/-!
# The diagram of the phases

The phase is read off the text and the flag.  On coherent displays it moves along a
diagram: where a message leads depends on the phase alone, except that Equals leads to a
result or to an error as the text has a value or not, and that an entry is gone when its
last character is taken back.

**Every message moves the phase along the diagram, and the display of an error stays as
it is until a digit, Clear or Delete** (`phase_diagram`).
-/

set_option autoImplicit false

namespace PocketCalculator

/-- The diagram: the phase to which a message leads from a phase in which the given text
is shown. -/
def Phase.next (phase : Phase) (text : String) : Message → Phase
  | .press key =>
      if key.isNumeric then .entering
      else match phase with
        | .errorShown => .errorShown
        | .empty | .entering | .resultShown => .entering
  | .equals =>
      match Evaluation.evaluate text with
      | .ok _ => .resultShown
      | .error _ => .errorShown
  | .clear => .empty
  | .delete =>
      match phase with
      | .entering => if text.length = 1 then .empty else .entering
      | .empty | .resultShown | .errorShown => .empty

namespace DisplayState

variable {state : DisplayState}

/-! ## Reading the phase -/

theorem phase_eq_empty_iff : state.phase = .empty ↔ state.isResult = false ∧ state.text = "" := by
  rw [phase]
  split <;> split <;> simp [*]

theorem phase_eq_entering_iff :
    state.phase = .entering ↔ state.isResult = false ∧ state.text ≠ "" := by
  rw [phase]
  split <;> split <;> simp [*]

theorem phase_eq_resultShown_iff :
    state.phase = .resultShown ↔ state.isResult = true ∧ state.text ≠ errorText := by
  rw [phase]
  split <;> split <;> simp [*]

theorem phase_eq_errorShown_iff : state.phase = .errorShown ↔ state = failed := by
  rw [phase, failed]
  cases state
  split <;> split <;> simp_all

/-- An entry that a key was typed into. -/
theorem phase_append_text (text : String) (key : Key) :
    ({ text := text ++ key.text, isResult := false } : DisplayState).phase = .entering := by
  refine phase_eq_entering_iff.mpr ⟨rfl, fun isEmpty => ?_⟩
  have characters := congrArg String.toList isEmpty
  rw [String.toList_append] at characters
  exact key.text_toList_ne_nil (List.append_eq_nil_iff.mp characters).2

/-! ## One message -/

/-- A digit leads to an entry. -/
theorem phase_appendValue_numeric (coherent : Coherent state) {key : Key}
    (numeric : key.isNumeric = true) : (state.appendValue key).phase = .entering := by
  cases flag : state.isResult with
  | true =>
      have fresh : state.appendValue key = { text := "" ++ key.text, isResult := false } := by
        simp [appendValue, flag, numeric]
      rw [fresh, phase_append_text]
  | false =>
      rw [appendValue_of_entry flag (coherent.text_ne_errorText flag), phase_append_text]

/-- Any other key leads to an entry, from every display but that of an error. -/
theorem phase_appendValue_not_numeric (coherent : Coherent state) {key : Key}
    (notNumeric : key.isNumeric = false) (noError : state.phase ≠ .errorShown) :
    (state.appendValue key).phase = .entering := by
  have other : state.text ≠ errorText := fun error =>
    noError (phase_eq_errorShown_iff.mpr (coherent.eq_failed error))
  rw [appendValue_of_not_numeric notNumeric other, phase_append_text]

/-- Equals leads to a result if the text has a value, and to an error otherwise. -/
theorem phase_calculate (state : DisplayState) :
    state.calculate.1.phase = match Evaluation.evaluate state.text with
      | .ok _ => Phase.resultShown
      | .error _ => Phase.errorShown := by
  rw [calculate]
  cases Evaluation.evaluate state.text with
  | ok value => exact phase_eq_resultShown_iff.mpr ⟨rfl, resultText_ne_errorText value⟩
  | error failure => exact phase_eq_errorShown_iff.mpr rfl

/-- A text is gone with its last character exactly if it has one character. -/
theorem ofList_dropLast_eq_empty_iff {text : String} (nonempty : text ≠ "") :
    String.ofList text.toList.dropLast = "" ↔ text.length = 1 := by
  have positive : text.toList.length ≠ 0 := by
    rw [ne_eq, List.length_eq_zero_iff, String.toList_eq_nil_iff]
    exact nonempty
  rw [← String.toList_inj, String.toList_ofList, String.toList_empty, ← List.length_eq_zero_iff,
    List.length_dropLast, ← String.length_toList]
  omega

/-- Taking back a character leads from an entry of one character to the empty display. -/
theorem phase_deleteLast_entering (entering : state.phase = .entering) :
    state.deleteLast.phase = if state.text.length = 1 then .empty else .entering := by
  obtain ⟨entry, nonempty⟩ := phase_eq_entering_iff.mp entering
  rw [deleteLast_of_entry entry, phase, if_neg Bool.false_ne_true]
  simp only [ofList_dropLast_eq_empty_iff nonempty]

/-- A result, an error and the empty display go as a whole. -/
theorem phase_deleteLast_of_ne_entering (other : state.phase ≠ .entering) :
    state.deleteLast.phase = .empty := by
  cases flag : state.isResult with
  | true =>
      rw [deleteLast_of_result flag]
      rfl
  | false =>
      have isEmpty : state.text = "" := by
        by_contra nonempty
        exact other (phase_eq_entering_iff.mpr ⟨flag, nonempty⟩)
      rw [deleteLast_of_entry flag, isEmpty]
      rfl

/-- **A message moves the phase of a coherent display along the diagram.** -/
theorem Coherent.phase_update (coherent : Coherent state) (message : Message) :
    (state.update message).1.phase = state.phase.next state.text message := by
  cases message with
  | press key =>
      simp only [DisplayState.update, Phase.next]
      cases numeric : key.isNumeric with
      | true => rw [if_pos rfl, phase_appendValue_numeric coherent numeric]
      | false =>
          rw [if_neg Bool.false_ne_true]
          -- The word for an error takes no other key; every other text is added to.
          by_cases error : state.phase = .errorShown
          · rw [appendValue_errorText numeric (phase_eq_errorShown_iff.mp error ▸ rfl), error]
          · rw [phase_appendValue_not_numeric coherent numeric error]
            cases shown : state.phase with
            | errorShown => exact absurd shown error
            | empty => rfl
            | entering => rfl
            | resultShown => rfl
  | equals => exact phase_calculate state
  | clear => rfl
  | delete =>
      simp only [DisplayState.update, Phase.next]
      cases shown : state.phase with
      | entering => exact phase_deleteLast_entering shown
      | empty => exact phase_deleteLast_of_ne_entering (by rw [shown]; decide)
      | resultShown => exact phase_deleteLast_of_ne_entering (by rw [shown]; decide)
      | errorShown => exact phase_deleteLast_of_ne_entering (by rw [shown]; decide)

/-! ## The diagram -/

/-- The empty display and the display of an error have no value. -/
theorem phase_calculate_of_no_value
    (noValue : state.phase = .empty ∨ state.phase = .errorShown) :
    (state.update .equals).1.phase = .errorShown := by
  have failure : Evaluation.evaluate state.text = .error .invalidExpression := by
    rcases noValue with isEmpty | error
    · rw [(phase_eq_empty_iff.mp isEmpty).2]
      decide +kernel
    · rw [phase_eq_errorShown_iff.mp error]
      exact evaluate_errorText
  rw [update_equals, failure]
  exact phase_eq_errorShown_iff.mpr rfl

/-- **The display follows the diagram of its phases.** On every display that messages lead
to, a message moves the phase along the diagram; Equals leads to an error from the empty
display and from an error; and the display of an error is the same after every row of
keys that are no digits and Equals. -/
theorem phase_diagram (history : List Message) :
    (∀ message, ((empty.run history).update message).1.phase =
        (empty.run history).phase.next (empty.run history).text message) ∧
      ((empty.run history).phase = .empty ∨ (empty.run history).phase = .errorShown →
        ((empty.run history).update .equals).1.phase = .errorShown) ∧
      ((empty.run history).phase = .errorShown → ∀ messages : List Message,
        (∀ message ∈ messages, message.keepsError = true) →
          (empty.run history).run messages = empty.run history) := by
  refine ⟨(coherent_run history).phase_update, phase_calculate_of_no_value, ?_⟩
  intro error messages keep
  rw [phase_eq_errorShown_iff.mp error]
  exact run_failed keep

end DisplayState
end PocketCalculator
