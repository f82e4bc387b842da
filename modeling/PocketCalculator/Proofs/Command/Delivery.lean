import PocketCalculator.Command.Writing

/-!
# What reaches the sink

Work on a sink has written some bytes when it does to every sink what writing these bytes
in one go would do, and then comes to its result (`Writing.Emits`).  What two pieces of
work in a row have written are the bytes of the first and then those of the second,
unless the first fails (`Writing.Emits.bind`, `Writing.Emits.bind_error`).

**A command writes its transcript** (`Command.emits_perform`): however the lines are
spread over its work, the bytes are those of the transcript and the result is its failure.
A sink with limited room therefore keeps the first bytes of what any sink with more room
keeps, and **a command that writes more than there is room for fails with the refusal of
the sink, whatever else it would have come to** (`Command.perform_limited`).
-/

set_option autoImplicit false

namespace PocketCalculator

namespace Sink

/-- What comes of writing bytes and then ending with a result. -/
def take {α : Type} (sink : Sink) (bytes : List UInt8) (result : Except Failure α) :
    Except Failure α × Sink :=
  match sink.write bytes with
  | (next, true) => (result, next)
  | (next, false) => (.error (.inputOutput sink.refusal), next)

/-- Writing nothing leaves the sink as it is. -/
theorem write_nil (sink : Sink) : sink.write [] = (sink, true) := by
  cases sink with
  | mk room refusal kept => cases room <;> simp [write]

/-- A sink keeps its refusal. -/
theorem refusal_write (sink : Sink) (bytes : List UInt8) :
    (sink.write bytes).1.refusal = sink.refusal := by
  rw [write]
  split
  · rfl
  · split <;> rfl

/-- **Writing two rows of bytes is writing the first, and the second if there was room for
the first.** -/
theorem write_append (sink : Sink) (first second : List UInt8) :
    sink.write (first ++ second) =
      match sink.write first with
      | (next, true) => next.write second
      | (next, false) => (next, false) := by
  obtain ⟨room, refusal, kept⟩ := sink
  cases room with
  | none => simp [write]
  | some room =>
      simp only [write, List.length_append]
      by_cases fits : first.length ≤ room
      · rw [if_pos fits]
        dsimp only
        by_cases both : first.length + second.length ≤ room
        · rw [if_pos both, if_pos (by omega)]
          simp [Nat.sub_sub]
        · rw [if_neg both, if_neg (by omega), List.take_append, List.take_of_length_le fits]
          simp
      · rw [if_neg fits, if_neg (by omega), List.take_append_of_le_length (by omega)]

end Sink

namespace Writing

variable {α β : Type}

/-- The work writes the bytes and ends with the result: it does so on every sink that takes
the bytes, and any other sink keeps what it has room for and ends the work. -/
def Emits (work : Writing α) (bytes : List UInt8) (result : Except Failure α) : Prop :=
  ∀ sink, work sink = sink.take bytes result

theorem emits_line (text : String) : Emits (line text) (lineBytes text) (.ok ()) :=
  fun _ => rfl

theorem emits_pure (value : α) : Emits (pure value) [] (.ok value) := by
  intro sink
  rw [Sink.take, sink.write_nil]
  rfl

theorem emits_throw (failure : Failure) :
    Emits (throw failure : Writing α) [] (.error failure) := by
  intro sink
  rw [Sink.take, sink.write_nil]
  rfl

/-- Work goes on with the value that its first part ends with. -/
theorem run_bind (work : Writing α) (next : α → Writing β) (sink : Sink) :
    (work >>= next) sink = match work sink with
      | (.ok value, rest) => next value rest
      | (.error failure, rest) => (.error failure, rest) := by
  show ExceptT.bindCont next (work sink).1 (work sink).2 = _
  cases work sink with
  | mk ended rest => cases ended <;> rfl

namespace Emits

variable {work : Writing α} {next : α → Writing β} {first second : List UInt8} {value : α}
  {result : Except Failure β}

/-- **Work that goes on writes after what it has written.** -/
theorem bind (emits : Emits work first (.ok value)) (later : Emits (next value) second result) :
    Emits (work >>= next) (first ++ second) result := by
  intro sink
  rw [run_bind, emits sink, Sink.take, Sink.take, sink.write_append first second]
  have refusal := sink.refusal_write first
  cases written : sink.write first with
  | mk rest taken =>
      rw [written] at refusal
      cases taken with
      | true =>
          dsimp only
          rw [later rest, Sink.take, refusal]
      | false => rfl

/-- Work that goes on in silence has written the same. -/
theorem bind_silent (emits : Emits work first (.ok value)) (later : Emits (next value) [] result) :
    Emits (work >>= next) first result := by
  rw [← List.append_nil first]
  exact emits.bind later

/-- Work that has failed writes no more. -/
theorem bind_error {failure : Failure} (emits : Emits work first (.error failure)) :
    Emits (work >>= next) first (.error failure) := by
  intro sink
  rw [run_bind, emits sink, Sink.take, Sink.take]
  cases sink.write first with
  | mk rest taken => cases taken <;> rfl

end Emits
end Writing

/-- The result of work that ends with a failure, if there is one. -/
def Failure.result {α : Type} (failure : Option Failure) (value : α) : Except Failure α :=
  match failure with
  | none => .ok value
  | some failure => .error failure

namespace Command

open Writing

variable (settings : Settings) (printer : Printer)

/-! ## Transcripts are written -/

theorem emits_say (text : String) :
    Emits (say settings text) ((unlessQuiet settings [text]).flatMap lineBytes) (.ok ()) := by
  rw [say, unlessQuiet]
  split
  · exact emits_pure ()
  · rw [List.flatMap_singleton]
    exact emits_line text

theorem emits_performEval (expression : String) :
    Emits (performEval settings printer expression)
      (evalTranscript settings printer expression).bytes
      (Failure.result (evalTranscript settings printer expression).failure ()) := by
  rw [performEval, evalTranscript, Transcript.bytes, ← List.append_nil (List.flatMap lineBytes _)]
  refine (emits_say settings _).bind ?_
  cases Evaluation.evaluate expression with
  | ok value => exact emits_pure ()
  | error failure => exact emits_throw (.evaluation failure)

theorem unlessQuiet_nil : unlessQuiet settings [] = [] := by
  rw [unlessQuiet, ite_self]

theorem unlessQuiet_cons (line : String) (rest : List String) :
    unlessQuiet settings (line :: rest)
      = unlessQuiet settings [line] ++ unlessQuiet settings rest := by
  rw [unlessQuiet, unlessQuiet, unlessQuiet]
  split <;> rfl

/-- Pressing buttons writes the reports of a trace, and gives the last session or the name
that no button has. -/
theorem emits_performPresses (trace : Bool) (session : Session) (names : List String) :
    Emits (performPresses settings printer trace session names)
      ((unlessQuiet settings (if trace then
        (session.pressEach names).map fun pressed => printer.trace (pressed.2.report pressed.1)
        else [])).flatMap lineBytes)
      (Failure.result ((session.pressAll names).2.map Failure.unknownButton)
        (session.pressAll names).1) := by
  induction names generalizing session with
  | nil =>
      rw [Session.pressEach, List.map_nil, ite_self, unlessQuiet_nil]
      exact emits_pure session
  | cons name rest ih =>
      rw [performPresses, Session.pressAll, Session.pressEach]
      cases session.press? name with
      | none =>
          dsimp only
          rw [List.map_nil, ite_self, unlessQuiet_nil]
          exact emits_throw (.unknownButton name)
      | some next =>
          cases trace with
          | false => exact ih next
          | true =>
              simp only [if_true, List.map_cons]
              rw [unlessQuiet_cons, List.flatMap_append]
              exact (emits_say settings _).bind (ih next)

theorem emits_performPress (buttons : List String) (trace : Bool) :
    Emits (performPress settings printer buttons trace)
      (pressTranscript settings printer buttons trace).bytes
      (Failure.result (pressTranscript settings printer buttons trace).failure ()) := by
  have pressed := emits_performPresses settings printer trace .new buttons
  rw [performPress, pressTranscript, Transcript.bytes]
  dsimp only
  cases trace with
  | true =>
      rw [if_pos rfl] at pressed
      rw [if_pos rfl, pressReports, List.map_map]
      cases unknown : (Session.new.pressAll buttons).2 with
      | none =>
          rw [unknown] at pressed
          exact pressed.bind_silent (emits_pure ())
      | some name =>
          rw [unknown] at pressed
          exact pressed.bind_error
  | false =>
      rw [if_neg Bool.false_ne_true, unlessQuiet_nil, List.flatMap_nil] at pressed
      rw [if_neg Bool.false_ne_true, pressReport?]
      cases shown : Session.new.pressAll buttons with
      | mk final unknown =>
          rw [shown] at pressed
          cases unknown with
          | none => exact pressed.bind (emits_say settings _)
          | some name =>
              dsimp only
              rw [Option.map_none, Option.toList_none, unlessQuiet_nil, List.flatMap_nil]
              exact pressed.bind_error

theorem emits_performNames (session : Session) (names : List String) :
    Emits (performNames session names)
      (((session.pressAll names).2.map fun name =>
        (Failure.unknownButton name).message).toList.flatMap lineBytes)
      (.ok (session.pressAll names).1) := by
  induction names generalizing session with
  | nil => exact emits_pure session
  | cons name rest ih =>
      rw [performNames, Session.pressAll]
      cases session.press? name with
      | some next => exact ih next
      | none =>
          rw [Option.map_some, Option.toList_some, List.flatMap_singleton]
          exact (emits_line _).bind_silent (emits_pure session)

theorem emits_performRepl (session : Session) (lines : List (List UInt8)) :
    Emits (performRepl settings printer session lines)
      (((session.converse lines).1.flatMap (Exchange.answer printer settings.isQuiet)).flatMap
        lineBytes)
      (Failure.result (session.converse lines).2 ()) := by
  induction lines generalizing session with
  | nil => exact emits_pure ()
  | cons line rest ih =>
      rw [performRepl, Session.converse]
      cases LineReading.ofBytes line with
      | unreadable => exact emits_throw (.inputOutput unreadableReason)
      | blank => exact ih session
      | farewell => exact emits_pure ()
      | buttons input =>
          dsimp only
          rw [List.flatMap_cons, Exchange.answer, List.flatMap_append, List.flatMap_append,
            List.append_assoc]
          exact (emits_performNames session (Text.words input)).bind
            ((emits_say settings _).bind (ih (session.exchange input).session))

/-- **A command writes its transcript, and ends as the transcript says.** -/
theorem emits_perform (terminal : Bool) (command : Command) (input : List UInt8) :
    Emits (command.perform settings terminal input) (command.run settings terminal input).bytes
      (Failure.result (command.run settings terminal input).failure ()) := by
  cases command with
  | eval expression => exact emits_performEval settings _ expression
  | press buttons trace => exact emits_performPress settings _ buttons trace
  | repl => exact emits_performRepl settings _ .new (splitLines input)
  | keypad => exact emits_say settings _

/-- On a sink with room for everything the bytes of the transcript are kept. -/
theorem kept_perform (terminal : Bool) (command : Command) (input : List UInt8) :
    (command.perform settings terminal input {}).2.kept =
      (command.run settings terminal input).bytes :=
  congrArg (fun ended : Except Failure Unit × Sink => ended.2.kept)
    (emits_perform settings terminal command input {})

/-! ## Transcripts are delivered -/

/-- The delivery of a transcript as work on a sink. -/
def delivery (transcript : Transcript) : Writing Unit := fun sink =>
  (Failure.result (sink.deliver transcript).2 (), (sink.deliver transcript).1)

/-- Delivery writes a line and goes on with the others. -/
theorem delivery_cons (line : String) (rest : List String) (failure : Option Failure) :
    delivery { lines := line :: rest, failure } =
      (do Writing.line line; delivery { lines := rest, failure }) := by
  funext sink
  rw [run_bind, Writing.line, delivery, Sink.deliver, Sink.writeLines]
  cases sink.write (lineBytes line) with
  | mk next taken => cases taken <;> rfl

/-- **Delivering a transcript writes its bytes and ends with its failure.** -/
theorem emits_delivery (transcript : Transcript) :
    Emits (delivery transcript) transcript.bytes (Failure.result transcript.failure ()) := by
  obtain ⟨lines, failure⟩ := transcript
  rw [Transcript.bytes]
  induction lines with
  | nil =>
      cases failure with
      | none => exact emits_pure ()
      | some failure => exact emits_throw failure
  | cons line rest ih =>
      rw [delivery_cons, List.flatMap_cons]
      exact (emits_line line).bind ih

/-! ## Sinks with limited room -/

/-- **A command on a sink with limited room.** If all that the command writes has room, it
is kept and the command ends as it would without a limit.  Otherwise as many bytes are
kept as there is room for, and the command fails with the refusal of the sink, whatever
it would have ended with.  The command does on every sink what delivering its transcript
does. -/
theorem perform_limited (terminal : Bool) (command : Command) (input : List UInt8) (room : Nat)
    (refusal : String) :
    let whole := command.perform settings terminal input {}
    let limited := command.perform settings terminal input { room := some room, refusal }
    (whole.2.kept.length ≤ room →
        limited.2.kept = whole.2.kept ∧ limited.1 = whole.1) ∧
      (room < whole.2.kept.length →
        limited.2.kept = whole.2.kept.take room ∧ limited.1 = .error (.inputOutput refusal)) ∧
      command.perform settings terminal input
        = delivery (command.run settings terminal input) := by
  intro whole limited
  have emits := emits_perform settings terminal command input
  have unlimited : whole = (Failure.result (command.run settings terminal input).failure (),
      { kept := (command.run settings terminal input).bytes }) := emits {}
  have kept : whole.2.kept = (command.run settings terminal input).bytes := by rw [unlimited]
  rw [kept]
  refine ⟨?_, ?_, ?_⟩
  · intro fits
    have all : limited = _ := emits { room := some room, refusal }
    simp only [Sink.take, Sink.write, if_pos fits] at all
    rw [all, unlimited]
    exact ⟨rfl, rfl⟩
  · intro exceeds
    have cut : limited = _ := emits { room := some room, refusal }
    simp only [Sink.take, Sink.write, if_neg (Nat.not_le.mpr exceeds)] at cut
    rw [cut]
    exact ⟨rfl, rfl⟩
  · funext sink
    rw [emits sink, emits_delivery _ sink]

end Command
end PocketCalculator
