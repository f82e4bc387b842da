import PocketCalculator.Proofs.Command.Delivery
import PocketCalculator.Proofs.Command.Replay

/-!
# Settings only choose what is shown

What a command has to say is a row of sayings (`Command.sayings`): reports, and complaints
about names that no button has.  The printer gives the reports their words; the verbosity
chooses which sayings are heard (`heard`), which are all of them or, under quiet settings,
the complaints.  The lines of a transcript are the sayings that are heard
(`Command.lines_transcript`), and how the command ends is the same under all settings
(`Command.failure_transcript`).

**Settings never influence how a command ends**, degrees of verbosity that are not quiet
write the same bytes, and a quiet command writes of what a loud one writes the lines for
unknown names and nothing else (`Command.perform_presentation`).
-/

set_option autoImplicit false

namespace PocketCalculator

/-! ## Sayings -/

/-- One line that a command has to say: that no button has a name, or anything else that
is to be shown. -/
inductive Saying where
  | complaint (name : String)
  | shown (line : String)
deriving DecidableEq, Repr

namespace Saying

/-- The line that a saying is written as. -/
def line : Saying → String
  | complaint name => (Failure.unknownButton name).message
  | shown line => line

/-- Whether a saying is a complaint about a name. -/
def isComplaint : Saying → Bool
  | complaint _ => true
  | shown _ => false

/-- The bytes of a row of sayings. -/
def bytes (sayings : List Saying) : List UInt8 := (sayings.map line).flatMap lineBytes

theorem filter_complaints (names : List String) :
    (names.map complaint).filter isComplaint = names.map complaint :=
  List.filter_eq_self.mpr fun saying member => by
    obtain ⟨name, -, rfl⟩ := List.mem_map.mp member
    rfl

theorem filter_shown (lines : List String) : (lines.map shown).filter isComplaint = [] :=
  List.filter_eq_nil_iff.mpr fun saying member => by
    obtain ⟨line, -, rfl⟩ := List.mem_map.mp member
    exact Bool.false_ne_true

end Saying

/-- The sayings that are heard under the settings; complaints always are. -/
def heard (settings : Settings) (sayings : List Saying) : List Saying :=
  if settings.isQuiet then sayings.filter Saying.isComplaint else sayings

theorem heard_append (settings : Settings) (first second : List Saying) :
    heard settings (first ++ second) = heard settings first ++ heard settings second := by
  rw [heard, heard, heard]
  split
  · exact List.filter_append ..
  · rfl

theorem heard_complaints (settings : Settings) (names : List String) :
    heard settings (names.map .complaint) = names.map .complaint := by
  rw [heard, Saying.filter_complaints, ite_self]

theorem map_line_heard_shown (settings : Settings) (lines : List String) :
    (heard settings (lines.map .shown)).map Saying.line = unlessQuiet settings lines := by
  have same : (lines.map Saying.shown).map Saying.line = lines := by
    rw [List.map_map]
    exact List.map_id lines
  rw [heard, unlessQuiet, Saying.filter_shown]
  split
  · rfl
  · exact same

/-! ## What a command has to say -/

/-- What there is to say about a line of a conversation: the first name on it that no
button has, and then the report. -/
def Exchange.sayings (printer : Printer) (exchange : Exchange) : List Saying :=
  (Keypad.firstUnknown? (Text.words exchange.input)).toList.map .complaint ++
    [.shown (printer.trace (exchange.session.report exchange.input))]

/-- **An exchange is answered with what is heard of its sayings.** -/
theorem Exchange.answer_eq (settings : Settings) (printer : Printer) {exchange : Exchange}
    (first : exchange.unknown = Keypad.firstUnknown? (Text.words exchange.input)) :
    exchange.answer printer settings.isQuiet =
      (heard settings (exchange.sayings printer)).map Saying.line := by
  have report := map_line_heard_shown settings
    [printer.trace (exchange.session.report exchange.input)]
  rw [List.map_singleton] at report
  rw [answer, sayings, heard_append, heard_complaints, List.map_append, report, first, List.map_map]
  congr 1
  cases Keypad.firstUnknown? (Text.words exchange.input) <;> rfl

namespace Command

/-- All that a command has to say, in order, whether it is heard or not. -/
def sayings (printer : Printer) (command : Command) (input : List UInt8) : List Saying :=
  match command with
  | eval expression =>
      [.shown (printer.report (outcomeReport expression (Evaluation.evaluate expression)))]
  | press buttons true => ((pressReports buttons).map printer.trace).map .shown
  | press buttons false => ((pressReport? buttons).map printer.report).toList.map .shown
  | repl => (Session.new.converse (splitLines input)).1.flatMap (Exchange.sayings printer)
  | keypad => [.shown printer.keypad]

/-- The answers to a row of exchanges are what is heard of their sayings. -/
theorem answers_eq (settings : Settings) (printer : Printer) {exchanges : List Exchange}
    (first : ∀ exchange ∈ exchanges,
      exchange.unknown = Keypad.firstUnknown? (Text.words exchange.input)) :
    exchanges.flatMap (Exchange.answer printer settings.isQuiet) =
      (heard settings (exchanges.flatMap (Exchange.sayings printer))).map Saying.line := by
  induction exchanges with
  | nil =>
      rw [List.flatMap_nil, List.flatMap_nil, heard, List.filter_nil, ite_self]
      rfl
  | cons exchange rest ih =>
      obtain ⟨here, later⟩ := List.forall_mem_cons.mp first
      rw [List.flatMap_cons, List.flatMap_cons, heard_append, List.map_append, ih later,
        Exchange.answer_eq settings printer here]

/-- **The lines of a transcript are the sayings that are heard.** -/
theorem lines_transcript (settings : Settings) (printer : Printer) (command : Command)
    (input : List UInt8) :
    (command.transcript settings printer input).lines =
      (heard settings (command.sayings printer input)).map Saying.line := by
  match command with
  | eval expression => exact (map_line_heard_shown settings [_]).symm
  | press buttons true => exact (map_line_heard_shown settings _).symm
  | press buttons false => exact (map_line_heard_shown settings _).symm
  | repl => exact answers_eq settings printer Session.unknown_of_mem_converse
  | keypad => exact (map_line_heard_shown settings [_]).symm

/-- **How a command ends does not depend on settings or printer.** -/
theorem failure_transcript (settings other : Settings) (printer otherPrinter : Printer)
    (command : Command) (input : List UInt8) :
    (command.transcript settings printer input).failure =
      (command.transcript other otherPrinter input).failure := by
  cases command <;> rfl

/-- The complaints of a row of exchanges are about their unknown names. -/
theorem filter_sayings_exchanges (printer : Printer) {exchanges : List Exchange}
    (first : ∀ exchange ∈ exchanges,
      exchange.unknown = Keypad.firstUnknown? (Text.words exchange.input)) :
    (exchanges.flatMap (Exchange.sayings printer)).filter Saying.isComplaint =
      (exchanges.filterMap Exchange.unknown).map .complaint := by
  induction exchanges with
  | nil => rfl
  | cons exchange rest ih =>
      obtain ⟨here, later⟩ := List.forall_mem_cons.mp first
      rw [List.flatMap_cons, List.filter_append, ih later, Exchange.sayings, List.filter_append,
        Saying.filter_complaints, ← here, List.filterMap_cons]
      cases exchange.unknown <;> rfl

/-- The complaints of a command are about the names that its conversation does not know. -/
theorem filter_sayings (printer : Printer) (command : Command) (input : List UInt8) :
    (command.sayings printer input).filter Saying.isComplaint =
      (command.unknownNames input).map .complaint := by
  match command with
  | eval expression => rfl
  | press buttons true => exact Saying.filter_shown _
  | press buttons false => exact Saying.filter_shown _
  | repl => exact filter_sayings_exchanges printer Session.unknown_of_mem_converse
  | keypad => rfl

/-! ## What a command writes -/

/-- On a sink with room for everything a command writes what is heard of its sayings, and
ends as its transcript does. -/
theorem perform_unlimited (settings : Settings) (terminal : Bool) (command : Command)
    (input : List UInt8) :
    command.perform settings terminal input {} =
      (Failure.result (command.run settings terminal input).failure (),
        { kept := Saying.bytes
            (heard settings (command.sayings (.ofSettings settings terminal) input)) }) := by
  rw [Saying.bytes, ← lines_transcript]
  exact emits_perform settings terminal command input {}

/-- **Settings never influence how a command ends, and of what it has to say they only
choose what is shown.** Two runs under any settings end in the same way.  Degrees of
verbosity that are not quiet write the same bytes.  A command that is not quiet writes all
its sayings.  A quiet one writes of these the complaints about unknown names, in order,
which only a conversation has. -/
theorem perform_presentation (command : Command) (input : List UInt8) (settings other : Settings)
    (terminal otherTerminal : Bool) :
    let ending := fun settings terminal => (command.perform settings terminal input {}).1
    let output := fun settings terminal => (command.perform settings terminal input {}).2.kept
    let sayings := command.sayings (.ofSettings settings terminal) input
    ending settings terminal = ending other otherTerminal ∧
      (∀ verbosity, settings.isQuiet = false → Verbosity.isQuiet verbosity = false →
        output { settings with verbosity } terminal = output settings terminal) ∧
      (settings.isQuiet = false → other.isQuiet = true →
        output settings terminal = Saying.bytes sayings ∧
          output other otherTerminal = Saying.bytes (sayings.filter Saying.isComplaint)) ∧
      (other.isQuiet = true →
        output other otherTerminal = (command.unknownNames input).flatMap (fun name =>
            lineBytes (Failure.unknownButton name).message) ∧
          (command ≠ .repl → output other otherTerminal = [])) := by
  intro ending output sayings
  have shown : ∀ settings terminal, output settings terminal =
      Saying.bytes (heard settings (command.sayings (.ofSettings settings terminal) input)) := by
    intro settings terminal
    show (command.perform settings terminal input {}).2.kept = _
    rw [perform_unlimited]
  have loud : ∀ settings terminal, settings.isQuiet = false → output settings terminal =
      Saying.bytes (command.sayings (.ofSettings settings terminal) input) := by
    intro settings terminal isLoud
    rw [shown, heard, isLoud, if_neg Bool.false_ne_true]
  have quiet : other.isQuiet = true → output other otherTerminal =
      Saying.bytes ((command.unknownNames input).map .complaint) := by
    intro isQuiet
    rw [shown, heard, isQuiet, if_pos rfl, filter_sayings]
  refine ⟨?_, ?_, ?_, ?_⟩
  · show (command.perform settings terminal input {}).1 =
      (command.perform other otherTerminal input {}).1
    rw [perform_unlimited, perform_unlimited]
    exact congrArg (Failure.result · ()) (failure_transcript settings other _ _ command input)
  · intro verbosity isLoud alsoLoud
    rw [loud _ terminal isLoud, loud { settings with verbosity } terminal alsoLoud]
    rfl
  · intro isLoud isQuiet
    refine ⟨loud settings terminal isLoud, ?_⟩
    rw [quiet isQuiet, filter_sayings]
  · intro isQuiet
    have complaints := quiet isQuiet
    rw [Saying.bytes, List.map_map, List.flatMap_map] at complaints
    refine ⟨complaints, fun noConversation => ?_⟩
    rw [complaints]
    cases command with
    | repl => contradiction
    | eval => rfl
    | press => rfl
    | keypad => rfl

end Command
end PocketCalculator
