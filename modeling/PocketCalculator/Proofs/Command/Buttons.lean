import Mathlib.Data.List.Forall2
import PocketCalculator.Command.Session

/-!
# Rows of buttons

Pressing buttons by name is sending their messages, as long as every name stands for a
button (`pressAll_of_sends`), and the calculator of a session does what its display does
with the messages (`state_sendAll`).  A trace of the presses is made of the traces of
their parts (`pressEach_append`) and ends in the session after the last
(`getLast?_pressEach`).
-/

set_option autoImplicit false

namespace PocketCalculator

/-- The name stands for a button that sends the message. -/
def Keypad.Sends (name : String) (message : Message) : Prop :=
  (findByLabel? name).map Button.message = some message

instance (name : String) (message : Message) : Decidable (Keypad.Sends name message) :=
  inferInstanceAs (Decidable (_ = _))

namespace Session

/-- The session after a row of messages. -/
def sendAll (session : Session) (messages : List Message) : Session :=
  messages.foldl send session

theorem sendAll_cons (session : Session) (message : Message) (rest : List Message) :
    session.sendAll (message :: rest) = (session.send message).sendAll rest := rfl

theorem sendAll_append (session : Session) (first second : List Message) :
    session.sendAll (first ++ second) = (session.sendAll first).sendAll second :=
  List.foldl_append

/-! ## Messages -/

/-- Sending a message updates the display. -/
theorem state_send (session : Session) (message : Message) :
    (session.send message).calculator.state
      = (session.calculator.state.update message).1 := rfl

/-- **Sending a row of messages runs the display on them.** -/
theorem state_sendAll (session : Session) (messages : List Message) :
    (session.sendAll messages).calculator.state
      = session.calculator.state.run messages := by
  induction messages generalizing session with
  | nil => rfl
  | cons message rest ih => rw [sendAll_cons, ih, state_send, DisplayState.run_cons]

/-! ## Names -/

theorem press?_of_sends {name : String} {message : Message} (sends : Keypad.Sends name message)
    (session : Session) : session.press? name = some (session.send message) := by
  obtain ⟨button, found, rfl⟩ := Option.map_eq_some_iff.mp sends
  rw [press?, found, Option.map_some]

/-- **Pressing buttons by name sends their messages.** -/
theorem pressAll_of_sends {names : List String} {messages : List Message}
    (known : List.Forall₂ Keypad.Sends names messages) (session : Session) :
    session.pressAll names = (session.sendAll messages, none) := by
  induction known generalizing session with
  | nil => rfl
  | cons sends _ ih =>
      rw [pressAll, press?_of_sends sends, sendAll_cons]
      exact ih _

/-- Whatever names are pressed, messages are sent. -/
theorem exists_sendAll_pressAll (session : Session) (names : List String) :
    ∃ messages, (session.pressAll names).1 = session.sendAll messages := by
  induction names generalizing session with
  | nil => exact ⟨[], rfl⟩
  | cons name rest ih =>
      rw [pressAll, press?]
      cases Keypad.findByLabel? name with
      | none => exact ⟨[], rfl⟩
      | some button =>
          obtain ⟨messages, sent⟩ := ih (session.send button.message)
          exact ⟨button.message :: messages, sent⟩

/-- The sessions after each name of a row are those of its parts in turn. -/
theorem pressEach_append (session : Session) (first second : List String) :
    session.pressEach (first ++ second) =
      session.pressEach first ++
        match session.pressAll first with
        | (middle, none) => middle.pressEach second
        | (_, some _) => [] := by
  induction first generalizing session with
  | nil => rfl
  | cons name rest ih =>
      rw [List.cons_append, pressEach, pressEach, pressAll]
      cases session.press? name with
      | none => rfl
      | some next => exact congrArg (List.cons (name, next)) (ih next)

/-- The last button of a row is pressed on the session after all others. -/
theorem getLast?_pressEach {names : List String} {messages : List Message} {last : String}
    {message : Message} (known : List.Forall₂ Keypad.Sends names messages)
    (sends : Keypad.Sends last message) (session : Session) :
    (session.pressEach (names ++ [last])).getLast?
      = some (last, session.sendAll (messages ++ [message])) := by
  rw [pressEach_append, pressAll_of_sends known, sendAll_append]
  dsimp only [pressEach]
  rw [press?_of_sends sends]
  exact List.getLast?_concat

end Session
end PocketCalculator
