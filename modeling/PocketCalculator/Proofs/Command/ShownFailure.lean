import PocketCalculator.Proofs.Command.Reports
import PocketCalculator.Proofs.Command.TypedExpression

/-!
# The failure that a session shows

A session carries a failure beside its display.  Whatever names are given to it, known or
not, the two agree: a failure is carried exactly while the display shows an error
(`Session.Coherent`), which a name keeps (`Session.Coherent.attempt`).  The failure is
the one that the last Equals among the names came to (`Session.error_attemptAll`).

**Every report of a command names a failure exactly if its phase is that of an error, and
every row of names leaves a session with the failure that its display shows**
(`failure_matches_display`).
-/

set_option autoImplicit false

namespace PocketCalculator

namespace DisplayState

/-- A message other than Equals leads to the display of an error from nowhere else. -/
theorem Coherent.errorShown_of_update {state : DisplayState} (coherent : Coherent state)
    {message : Message} (other : message ≠ .equals)
    (error : (state.update message).1.phase = .errorShown) : state.phase = .errorShown := by
  rw [coherent.phase_update] at error
  cases message with
  | press key =>
      cases numeric : key.isNumeric with
      | true => simp [Phase.next, numeric] at error
      | false =>
          cases shown : state.phase with
          | errorShown => rfl
          | empty => simp [Phase.next, numeric, shown] at error
          | entering => simp [Phase.next, numeric, shown] at error
          | resultShown => simp [Phase.next, numeric, shown] at error
  | equals => contradiction
  | clear => contradiction
  | delete =>
      simp only [Phase.next] at error
      split at error
      · split at error <;> contradiction
      all_goals contradiction

end DisplayState

/-- An outcome that carries a failure is that failure. -/
theorem Outcome.eq_error_of_error? {outcome : Outcome} {failure : CalculationError}
    (carries : outcome.error? = some failure) : outcome = .error failure := by
  cases outcome with
  | ok value => exact nomatch carries
  | error shown => rw [Option.some.inj carries]

namespace Session

/-! ## Sessions whose failure is shown -/

/-- A failure is carried exactly while the display shows an error. -/
structure Coherent (session : Session) : Prop where
  /-- The display is coherent. -/
  display : session.calculator.state.Coherent
  /-- A failure is carried in the phase of an error and in no other. -/
  error : session.error.isSome = true ↔ session.calculator.phase = .errorShown

theorem coherent_new : Coherent new where
  display := DisplayState.coherent_empty
  error := by decide

/-- A message other than Equals keeps the failure as long as an error is shown. -/
theorem error_send_of_ne_equals (session : Session) {message : Message}
    (other : message ≠ .equals) :
    (session.send message).error =
      if (session.send message).calculator.phase = .errorShown then session.error else none := by
  cases message with
  | press key => rfl
  | equals => contradiction
  | clear => rfl
  | delete => rfl

namespace Coherent

variable {session : Session}

/-- The phase of an error is told by the text. -/
theorem errorShown_iff (coherent : Coherent session) :
    session.calculator.phase = .errorShown ↔ session.calculator.display = errorText := by
  rw [Calculator.phase, DisplayState.phase_eq_errorShown_iff]
  constructor
  · intro failed
    rw [Calculator.display, failed, DisplayState.failed]
  · exact coherent.display.eq_failed

/-- **A message keeps a session coherent.** Equals shows its own outcome; any other message
leads to an error from an error only, whose failure is kept. -/
theorem send (coherent : Coherent session) (message : Message) :
    Coherent (session.send message) where
  display := coherent.display.update message
  error := by
    by_cases equals : message = .equals
    · rw [equals, send_equals]
      cases Evaluation.evaluate session.calculator.state.text with
      | ok value =>
          have phase : (showing (.ok value)).calculator.phase = .resultShown :=
            DisplayState.phase_eq_resultShown_iff.mpr ⟨rfl, resultText_ne_errorText value⟩
          rw [phase]
          exact iff_of_false Bool.false_ne_true nofun
      | error failure => exact iff_of_true rfl rfl
    · rw [error_send_of_ne_equals session equals]
      by_cases shown : (session.send message).calculator.phase = .errorShown
      · have before : session.calculator.phase = .errorShown :=
          coherent.display.errorShown_of_update equals shown
        rw [if_pos shown]
        exact iff_of_true (coherent.error.mpr before) shown
      · rw [if_neg shown]
        exact iff_of_false Bool.false_ne_true shown

/-- A name that a button has keeps a session coherent. -/
theorem press? (coherent : Coherent session) {name : String} {next : Session}
    (pressed : session.press? name = some next) : Coherent next := by
  obtain ⟨button, _, rfl⟩ := Option.map_eq_some_iff.mp pressed
  exact coherent.send button.message

theorem pressAll (coherent : Coherent session) (names : List String) :
    Coherent (session.pressAll names).1 := by
  induction names generalizing session with
  | nil => exact coherent
  | cons name rest ih =>
      rw [Session.pressAll]
      split
      · rename_i next pressed
        exact ih (coherent.press? pressed)
      · exact coherent

theorem pressEach (coherent : Coherent session) (names : List String) :
    ∀ pressed ∈ session.pressEach names, Coherent pressed.2 := by
  induction names generalizing session with
  | nil => nofun
  | cons name rest ih =>
      rw [Session.pressEach]
      split
      · rename_i next found
        have nextCoherent := coherent.press? found
        intro pressed member
        rcases List.mem_cons.mp member with rfl | later
        · exact nextCoherent
        · exact ih nextCoherent pressed later
      · intro pressed member
        exact absurd member List.not_mem_nil

theorem converse (coherent : Coherent session) (lines : List (List UInt8)) :
    ∀ exchange ∈ (session.converse lines).1, Coherent exchange.session := by
  intro exchange member
  have step : ∀ (before : Session) input, Coherent before →
      Coherent (before.exchange input).session :=
    fun before input coherent => coherent.pressAll (Text.words input)
  obtain ⟨before, coherent, same⟩ := of_mem_converse step coherent lines exchange member
  rw [same]
  exact step before exchange.input coherent

end Coherent

/-! ## Names given one by one -/

/-- The session after a name is given to it; a name that no button has changes nothing. -/
def attempt (session : Session) (name : String) : Session :=
  (session.press? name).getD session

/-- The session after a row of names is given to it. -/
def attemptAll (session : Session) (names : List String) : Session :=
  names.foldl attempt session

theorem attemptAll_append_singleton (session : Session) (names : List String) (name : String) :
    session.attemptAll (names ++ [name]) = (session.attemptAll names).attempt name := by
  rw [attemptAll, List.foldl_append, List.foldl_cons, List.foldl_nil, attemptAll]

theorem attempt_of_unknown (session : Session) {name : String}
    (unknown : Keypad.findByLabel? name = none) : session.attempt name = session := by
  rw [attempt, press?, unknown, Option.map_none, Option.getD_none]

theorem attempt_of_sends (session : Session) {name : String} {message : Message}
    (sends : Keypad.Sends name message) : session.attempt name = session.send message := by
  rw [attempt, press?_of_sends sends, Option.getD_some]

/-- **A name keeps a session coherent**, whether a button has it or not. -/
theorem Coherent.attempt {session : Session} (coherent : Coherent session) (name : String) :
    Coherent (session.attempt name) := by
  rw [Session.attempt]
  cases pressed : session.press? name with
  | none => exact coherent
  | some next => exact coherent.press? pressed

theorem coherent_attemptAll (names : List String) : Coherent (new.attemptAll names) := by
  induction names using List.reverseRecOn with
  | nil => exact coherent_new
  | append_singleton names name ih =>
      rw [attemptAll_append_singleton]
      exact ih.attempt name

/-! ## The last Equals -/

/-- The names have a last Equals, between the names before it and those after it. -/
structure LastEquals (names before : List String) (name : String) (after : List String) :
    Prop where
  /-- The names before Equals and after it. -/
  split : names = before ++ name :: after
  /-- The name is one of Equals. -/
  equals : Keypad.Sends name .equals
  /-- No later name is. -/
  later : ∀ other ∈ after, ¬ Keypad.Sends other .equals

/-- A name that is not one of Equals leaves the last Equals where it is. -/
theorem LastEquals.append_singleton {names before after : List String} {name : String}
    (last : LastEquals names before name after) {other : String}
    (notEquals : ¬ Keypad.Sends other .equals) :
    LastEquals (names ++ [other]) before name (after ++ [other]) where
  split := by rw [last.split, List.append_assoc, List.cons_append]
  equals := last.equals
  later candidate member := by
    rcases List.mem_append.mp member with earlier | isLast
    · exact last.later candidate earlier
    · rw [List.mem_singleton.mp isLast]
      exact notEquals

/-- Another name than that of Equals gives a session no failure that it does not have. -/
theorem error_of_attempt {session : Session} {name : String} {failure : CalculationError}
    (notEquals : ¬ Keypad.Sends name .equals)
    (carried : (session.attempt name).error = some failure) : session.error = some failure := by
  cases found : Keypad.findByLabel? name with
  | none =>
      rw [attempt_of_unknown session found] at carried
      exact carried
  | some button =>
      have sends : Keypad.Sends name button.message := by rw [Keypad.Sends, found, Option.map_some]
      have other : button.message ≠ .equals := by
        intro same
        rw [same] at sends
        exact notEquals sends
      rw [attempt_of_sends session sends, error_send_of_ne_equals session other] at carried
      split at carried
      · exact carried
      · exact nomatch carried

/-- **The failure that a session carries is the one that the last Equals came to.** The
induction takes the last name off: if it is not Equals, the failure was carried before. -/
theorem error_attemptAll {names : List String} {failure : CalculationError}
    (carried : (new.attemptAll names).error = some failure) :
    ∃ before name after, LastEquals names before name after ∧
      ((new.attemptAll before).calculator.send .equals).2 = some (.error failure) := by
  induction names using List.reverseRecOn with
  | nil => exact nomatch carried
  | append_singleton names name ih =>
      rw [attemptAll_append_singleton] at carried
      by_cases equals : Keypad.Sends name .equals
      · refine ⟨names, name, [], ⟨rfl, equals, nofun⟩, ?_⟩
        rw [attempt_of_sends _ equals, send_equals] at carried
        have failed : Evaluation.evaluate (new.attemptAll names).calculator.state.text
            = .error failure := Outcome.eq_error_of_error? carried
        rw [Calculator.send, DisplayState.update_equals, failed]
      · obtain ⟨before, last, after, isLast, failed⟩ := ih (error_of_attempt equals carried)
        exact ⟨before, last, after ++ [name], isLast.append_singleton equals, failed⟩

end Session

/-! ## Reports -/

/-- A report names a failure in the phase of an error and in no other. -/
def Report.Coherent (report : Report) : Prop :=
  report.error.isSome = true ↔ report.phase = .errorShown

theorem Session.Coherent.report {session : Session} (coherent : session.Coherent)
    (input : String) : (session.report input).Coherent := by
  rw [Report.Coherent, Session.report, Report.ofState, Option.isSome_map]
  exact coherent.error

namespace Command

/-- **Every report of a command is coherent.** -/
theorem coherent_reports (command : Command) (input : List UInt8) :
    ∀ report ∈ command.reports input, report.Coherent := by
  intro report member
  match command with
  | eval expression =>
      rw [List.mem_singleton.mp member, Report.Coherent]
      cases Evaluation.evaluate expression with
      | ok value => exact iff_of_false Bool.false_ne_true nofun
      | error failure => exact iff_of_true rfl rfl
  | press buttons true =>
      obtain ⟨pressed, isPressed, rfl⟩ := List.mem_map.mp member
      exact (Session.coherent_new.pressEach buttons pressed isPressed).report pressed.1
  | press buttons false =>
      rw [reports, pressReport?, Option.mem_toList] at member
      split at member
      · rename_i final shows
        rw [← Option.some.inj member]
        have coherent := Session.coherent_new.pressAll buttons
        rw [shows] at coherent
        exact coherent.report _
      · contradiction
  | repl =>
      obtain ⟨exchange, isExchange, rfl⟩ := List.mem_map.mp member
      exact (Session.coherent_new.converse _ exchange isExchange).report exchange.input
  | keypad => contradiction

/-- **A failure is carried and reported exactly while the display shows an error.** After
every row of names, known or not, the session has a failure exactly in the phase of an
error, whose display is the word for it; the failure is the one that the last Equals came
to.  A name that no button has changes nothing.  So every report of a command has a
failure, and a member for it in JSON, exactly if its phase is that of an error; and such
reports are all that a command writes, next to unknown names and the keypad. -/
theorem failure_matches_display (names : List String) :
    ((Session.new.attemptAll names).error.isSome = true ↔
        (Session.new.attemptAll names).calculator.phase = .errorShown) ∧
      ((Session.new.attemptAll names).calculator.phase = .errorShown ↔
        (Session.new.attemptAll names).calculator.display = errorText) ∧
      (∀ failure, (Session.new.attemptAll names).error = some failure →
        ∃ before name after, Session.LastEquals names before name after ∧
          ((Session.new.attemptAll before).calculator.send .equals).2 = some (.error failure)) ∧
      (∀ name, Keypad.findByLabel? name = none →
        (Session.new.attemptAll names).press? name = none ∧
          (Session.new.attemptAll names).attempt name = Session.new.attemptAll names) ∧
      (∀ (command : Command) (input : List UInt8), ∀ report ∈ command.reports input,
        (report.error.isSome = true ↔ report.phase = .errorShown) ∧
          ∃ members, report.toJson = .record members ∧
            ("error" ∈ members.map Prod.fst ↔ report.phase = .errorShown)) ∧
      (∀ (command : Command) (settings : Settings) (terminal : Bool) (input : List UInt8),
        ∀ line ∈ (command.run settings terminal input).lines,
          (∃ report ∈ command.reports input,
              line = (Printer.ofSettings settings terminal).report report ∨
                line = (Printer.ofSettings settings terminal).trace report) ∨
            (∃ name ∈ command.unknownNames input, line = (Failure.unknownButton name).message) ∨
            (command = .keypad ∧ line = (Printer.ofSettings settings terminal).keypad)) := by
  have coherent := Session.coherent_attemptAll names
  refine ⟨coherent.error, coherent.errorShown_iff, fun failure => Session.error_attemptAll, ?_, ?_,
    fun command settings terminal input line => mem_lines⟩
  · intro name unknown
    exact ⟨congrArg (Option.map _) unknown, Session.attempt_of_unknown _ unknown⟩
  · intro command input report member
    have reported := coherent_reports command input report member
    obtain ⟨members, stored, memberNames⟩ := report.exists_members_toJson
    refine ⟨reported, members, stored, ?_⟩
    rw [memberNames, report.error_mem_memberNames_iff]
    exact reported

end Command
end PocketCalculator
