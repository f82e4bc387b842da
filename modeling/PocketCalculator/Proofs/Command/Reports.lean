import PocketCalculator.Command.Run

/-!
# The reports of a command

What a command has to say is a row of reports; under quiet settings they are kept back.
**Every line that a command writes is one of its reports**, apart from the names that a
conversation does not know and from the keypad (`Command.mem_lines`).  In JSON a report
has a member for a failure exactly if it names one (`Report.error_mem_memberNames_iff`).
-/

set_option autoImplicit false

namespace PocketCalculator

namespace Report

/-- The names of the members of a report in JSON. -/
def memberNames (report : Report) : List String :=
  ["input", "display", "phase"] ++ (report.error.map fun _ => "error").toList

/-- A report in JSON has a member for the failure exactly if it names one. -/
theorem error_mem_memberNames_iff (report : Report) :
    "error" ∈ report.memberNames ↔ report.error.isSome = true := by
  rw [memberNames]
  cases report.error with
  | none => simp
  | some message => simp

theorem exists_members_toJson (report : Report) :
    ∃ members, report.toJson = .record members ∧ members.map Prod.fst = report.memberNames := by
  refine ⟨_, rfl, ?_⟩
  rw [memberNames]
  cases report.error <;> rfl

end Report

/-- **Every exchange of a conversation is that of a session with what the conversation keeps**,
if a single exchange keeps it. -/
theorem Session.of_mem_converse {keeps : Session → Prop}
    (step : ∀ session input, keeps session → keeps (session.exchange input).session)
    {session : Session} (start : keeps session) (lines : List (List UInt8)) :
    ∀ exchange ∈ (session.converse lines).1,
      ∃ before, keeps before ∧ exchange = before.exchange exchange.input := by
  induction lines generalizing session with
  | nil => nofun
  | cons line rest ih =>
      rw [converse]
      cases LineReading.ofBytes line with
      | unreadable => nofun
      | blank => exact ih start
      | farewell => nofun
      | buttons input =>
          intro exchange member
          rcases List.mem_cons.mp member with rfl | later
          · exact ⟨session, start, rfl⟩
          · exact ih (step session input start) exchange later

namespace Command

/-- The reports of a command on an input, whether they are written or kept back. -/
def reports (command : Command) (input : List UInt8) : List Report :=
  match command with
  | eval expression => [outcomeReport expression (Evaluation.evaluate expression)]
  | press buttons true => pressReports buttons
  | press buttons false => (pressReport? buttons).toList
  | repl => (Session.new.converse (splitLines input)).1.map fun exchange =>
      exchange.session.report exchange.input
  | keypad => []

/-- The names that no button has and that a conversation answers, line by line. -/
def unknownNames (command : Command) (input : List UInt8) : List String :=
  match command with
  | repl => (Session.new.converse (splitLines input)).1.filterMap Exchange.unknown
  | _ => []

variable {settings : Settings} {terminal : Bool} {line : String}

theorem unlessQuiet_of_loud (loud : settings.isQuiet = false) (lines : List String) :
    unlessQuiet settings lines = lines := by
  rw [unlessQuiet, loud, if_neg Bool.false_ne_true]

theorem mem_of_mem_unlessQuiet {lines : List String} (written : line ∈ unlessQuiet settings lines) :
    line ∈ lines := by
  rw [unlessQuiet] at written
  split at written
  · contradiction
  · exact written

/-- **Every line of a command writes one of its reports**, apart from those that a
conversation has for unknown names and from the keypad. -/
theorem mem_lines {command : Command} {input : List UInt8}
    (written : line ∈ (command.run settings terminal input).lines) :
    (∃ report ∈ command.reports input,
        line = (Printer.ofSettings settings terminal).report report ∨
          line = (Printer.ofSettings settings terminal).trace report) ∨
      (∃ name ∈ command.unknownNames input, line = (Failure.unknownButton name).message) ∨
      (command = .keypad ∧ line = (Printer.ofSettings settings terminal).keypad) := by
  match command with
  | eval expression =>
      exact .inl ⟨_, List.mem_singleton_self _, .inl (List.mem_singleton.mp
        (mem_of_mem_unlessQuiet written))⟩
  | press buttons true =>
      obtain ⟨report, member, rfl⟩ := List.mem_map.mp (mem_of_mem_unlessQuiet written)
      exact .inl ⟨report, member, .inr rfl⟩
  | press buttons false =>
      have shown := Option.mem_toList.mp (mem_of_mem_unlessQuiet written)
      obtain ⟨report, found, rfl⟩ := Option.map_eq_some_iff.mp shown
      exact .inl ⟨report, Option.mem_toList.mpr found, .inl rfl⟩
  | repl =>
      obtain ⟨exchange, isExchange, answered⟩ := List.mem_flatMap.mp written
      rcases List.mem_append.mp answered with unknown | reported
      · obtain ⟨name, isUnknown, rfl⟩ := Option.map_eq_some_iff.mp (Option.mem_toList.mp unknown)
        exact .inr (.inl ⟨name, List.mem_filterMap.mpr ⟨exchange, isExchange, isUnknown⟩, rfl⟩)
      · have shown := mem_of_mem_unlessQuiet reported
        exact .inl ⟨_, List.mem_map.mpr ⟨exchange, isExchange, rfl⟩,
          .inr (List.mem_singleton.mp shown)⟩
  | keypad =>
      exact .inr (.inr ⟨rfl, List.mem_singleton.mp (mem_of_mem_unlessQuiet written)⟩)

/-- Every unknown name is answered, under any settings. -/
theorem mem_lines_of_mem_unknownNames {command : Command} {input : List UInt8} {name : String}
    (unknown : name ∈ command.unknownNames input) :
    (Failure.unknownButton name).message ∈ (command.run settings terminal input).lines := by
  match command with
  | repl =>
      obtain ⟨exchange, isExchange, isUnknown⟩ := List.mem_filterMap.mp unknown
      refine List.mem_flatMap.mpr ⟨exchange, isExchange, List.mem_append_left _ ?_⟩
      rw [isUnknown]
      exact List.mem_singleton_self _

end Command
end PocketCalculator
