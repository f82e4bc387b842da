import PocketCalculator.Proofs.Command.Buttons
import PocketCalculator.Proofs.Command.Reports
import PocketCalculator.Proofs.Display.Phases

/-!
# Expressions typed and expressions given

An expression can be given to the program as a text, or typed with its buttons and ended
with Equals.  Typing on a new calculator puts the texts of the keys together, and Equals
leaves a session that shows the outcome of that text (`sendAll_typed`).

**Both ways report the same display, phase and failure**; giving the text fails exactly if
a failure is reported, and pressing the buttons never does (`press_agrees_with_eval`).
-/

set_option autoImplicit false

namespace PocketCalculator

open DisplayState (outcomeText)

/-! ## Equals in a session -/

/-- The session that shows an outcome. -/
def Session.showing (outcome : Outcome) : Session :=
  { calculator := { state := { text := outcomeText outcome, isResult := true } }
    error := outcome.error? }

/-- **Equals leaves a session that shows the outcome of the text**, whatever failure was
shown before. -/
theorem Session.send_equals (session : Session) :
    session.send .equals = showing (Evaluation.evaluate session.calculator.state.text) := by
  rw [send, Calculator.send, DisplayState.update_equals, showing]
  dsimp only
  congr 1
  cases Evaluation.evaluate session.calculator.state.text with
  | ok value => exact ite_self none
  | error failure => exact if_pos (DisplayState.phase_eq_errorShown_iff.mpr rfl)

/-- Keys and Equals on a new calculator show the outcome of the typed text. -/
theorem Session.sendAll_typed (keys : List Key) :
    Session.new.sendAll (keys.map Message.press ++ [.equals])
      = showing (Evaluation.evaluate (Key.typedText keys)) := by
  have typed : (Session.new.sendAll (keys.map Message.press)).calculator.state.text
      = Key.typedText keys := by
    rw [state_sendAll]
    exact (congrArg DisplayState.text (DisplayState.run_presses rfl (by decide) keys)).trans
      (String.empty_append)
  rw [sendAll_append, sendAll_cons, send_equals, typed]
  rfl

/-- The report on a session that shows an outcome. -/
theorem Session.report_showing (outcome : Outcome) (input expression : String) :
    (showing outcome).report input
      = { Command.outcomeReport expression outcome with input } := by
  cases outcome with
  | ok value =>
      have phase : ({ text := resultText value, isResult := true } : DisplayState).phase
          = .resultShown :=
        DisplayState.phase_eq_resultShown_iff.mpr ⟨rfl, resultText_ne_errorText value⟩
      exact congrArg
        (fun phase => ({ input, display := resultText value, phase, error := none } : Report)) phase
  | error failure => rfl

/-! ## Commands -/

namespace Command

/-- A failure is reported exactly if the outcome is one. -/
theorem error_outcomeReport_isSome_iff (expression : String) (outcome : Outcome) :
    (∃ failure, outcome.error?.map Failure.evaluation = some (.evaluation failure)) ↔
      (outcomeReport expression outcome).error.isSome = true := by
  cases outcome with
  | ok value => exact iff_of_false nofun Bool.false_ne_true
  | error failure => exact iff_of_true ⟨failure, rfl⟩ rfl

section Typed

variable {names : List String} {keys : List Key} {last : String}
  (known : List.Forall₂ Keypad.Sends names (keys.map Message.press))
  (equals : Keypad.Sends last .equals)
include known equals

/-- The buttons of keys and of Equals are known, and show the outcome of the typed text. -/
theorem pressAll_typed :
    Session.new.pressAll (names ++ [last])
      = (.showing (Evaluation.evaluate (Key.typedText keys)), none) := by
  have row : List.Forall₂ Keypad.Sends (names ++ [last]) (keys.map Message.press ++ [.equals]) :=
    List.rel_append known (.cons equals .nil)
  rw [Session.pressAll_of_sends row, Session.sendAll_typed]

/-- The report on the buttons is the report on the typed text under another input. -/
theorem pressReport?_typed :
    pressReport? (names ++ [last]) =
      some { outcomeReport (Key.typedText keys) (Evaluation.evaluate (Key.typedText keys)) with
        input := String.intercalate " " (names ++ [last]) } := by
  rw [pressReport?, pressAll_typed known equals]
  exact congrArg some (Session.report_showing _ _ _)

/-- So is the last report of the trace. -/
theorem getLast?_pressReports_typed :
    (pressReports (names ++ [last])).getLast? =
      some { outcomeReport (Key.typedText keys) (Evaluation.evaluate (Key.typedText keys)) with
        input := last } := by
  rw [pressReports, List.getLast?_map, Session.getLast?_pressEach known equals,
    Session.sendAll_typed, Option.map_some]
  exact congrArg some (Session.report_showing _ _ _)

/-- **Typing an expression and giving it as a text report the same.** Under settings that
are not quiet, the buttons of some keys and of Equals are reported with the display, the
phase and the failure with which the text that the keys type is reported, at the end of
the trace as well.  Giving the text fails exactly if a failure is reported, and then with
that failure; pressing the buttons does not fail. -/
theorem press_agrees_with_eval {settings : Settings} (loud : settings.isQuiet = false)
    (terminal : Bool) (input : List UInt8) :
    let printer := Printer.ofSettings settings terminal
    let outcome := Evaluation.evaluate (Key.typedText keys)
    let given := outcomeReport (Key.typedText keys) outcome
    let pressing := fun trace => (press (names ++ [last]) trace).run settings terminal input
    let giving := (eval (Key.typedText keys)).run settings terminal input
    ∃ pressed : Report,
      pressReport? (names ++ [last]) = some pressed ∧
      pressed.display = given.display ∧ pressed.phase = given.phase ∧
      pressed.error = given.error ∧
      (pressReports (names ++ [last])).getLast? = some { pressed with input := last } ∧
      pressing false = { lines := [printer.report pressed], failure := none } ∧
      pressing true =
        { lines := (pressReports (names ++ [last])).map printer.trace, failure := none } ∧
      giving.lines = [printer.report given] ∧
      giving.failure = outcome.error?.map Failure.evaluation ∧
      ((∃ failure, giving.failure = some (.evaluation failure)) ↔ pressed.error.isSome = true) := by
  intro printer outcome given pressing giving
  have shows := pressAll_typed known equals
  have reported := pressReport?_typed known equals
  refine ⟨_, reported, rfl, rfl, rfl, getLast?_pressReports_typed known equals, ?_, ?_,
    unlessQuiet_of_loud loud _, rfl, error_outcomeReport_isSome_iff (Key.typedText keys) outcome⟩
  · show pressTranscript settings printer (names ++ [last]) false = _
    rw [pressTranscript, shows, reported, unlessQuiet_of_loud loud]
    rfl
  · show pressTranscript settings printer (names ++ [last]) true = _
    rw [pressTranscript, shows, unlessQuiet_of_loud loud]
    rfl

end Typed

/-- One divided by zero, the button for division being called by another name. -/
theorem press_agrees_with_eval_division :
    List.Forall₂ Keypad.Sends ["1", "/", "0"]
        ([Key.digit 1, .operator .divide, .digit 0].map Message.press) ∧
      Keypad.Sends "=" .equals ∧ Settings.isQuiet {} = false ∧
      ∃ pressed, pressReport? ["1", "/", "0", "="] = some pressed ∧
        pressed.phase = .errorShown ∧ pressed.error = some "Division by zero" := by
  have known : List.Forall₂ Keypad.Sends ["1", "/", "0"]
      ([Key.digit 1, .operator .divide, .digit 0].map Message.press) :=
    .cons (by decide +kernel) (.cons (by decide +kernel) (.cons (by decide +kernel) .nil))
  have equals : Keypad.Sends "=" .equals := by decide +kernel
  have loud : Settings.isQuiet {} = false := rfl
  obtain ⟨pressed, reported, _, phase, error, _⟩ :=
    press_agrees_with_eval known equals loud false []
  exact ⟨known, equals, loud, pressed, reported, phase.trans (by decide +kernel),
    error.trans (by decide +kernel)⟩

end Command
end PocketCalculator
