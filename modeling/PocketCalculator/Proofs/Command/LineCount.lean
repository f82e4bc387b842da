import PocketCalculator.Proofs.Command.Buttons
import PocketCalculator.Proofs.Command.JsonLines
import PocketCalculator.Proofs.Command.PressedPrefixes
import PocketCalculator.Proofs.Display.LineBreaks

/-!
# The number of lines

A report is written as one line: the text of a display has no line break, emphasis adds
none, and JSON escapes those of the input (`Printer.newline_notMem_report`).  A record of a
trace in text also shows the name as it was given, with the blanks around it, so a line break
among these goes into the record (`Printer.count_newline_trace`).

**A traced row of buttons has a record for each name, and as many lines as records exactly if
the output is JSON or no name has a line break; without a trace, and for an expression, there
is one line** (`Command.lines_written`).  Names with line breaks do have buttons, so not every
trace has one line for each name (`Command.not_one_line_per_name`).
-/

set_option autoImplicit false

namespace PocketCalculator

/-- Bytes that are the given number of lines, each ended by the only newline in it. -/
structure HoldsLines (bytes : List UInt8) (count : Nat) : Prop where
  newlines : bytes.count 10 = count
  ended : bytes.getLast? = some 10

/-- Bytes hold the lines of one number only. -/
theorem HoldsLines.iff_eq {bytes : List UInt8} {count : Nat} (lines : HoldsLines bytes count)
    {other : Nat} : HoldsLines bytes other ↔ other = count where
  mp same := same.newlines.symm.trans lines.newlines
  mpr same := same ▸ lines

theorem getLast?_lineBytes (line : String) : (lineBytes line).getLast? = some 10 := by
  rw [lineBytes_eq]
  exact List.getLast?_concat

/-- Lines that are written end in a newline, and have all their line breaks besides. -/
theorem holdsLines_flatMap {lines : List String} (nonempty : lines ≠ []) :
    HoldsLines (lines.flatMap lineBytes)
      (lines.length + (lines.map fun line => line.toList.count '\n').sum) where
  newlines := by
    clear nonempty
    induction lines with
    | nil => rfl
    | cons line rest ih =>
        rw [List.flatMap_cons, List.count_append, ih, count_newline_lineBytes, List.length_cons,
          List.map_cons, List.sum_cons]
        omega
  ended := by
    rw [← List.dropLast_concat_getLast nonempty, List.flatMap_append, List.flatMap_singleton,
      List.getLast?_append, getLast?_lineBytes, Option.some_or]

/-- One line without a line break. -/
theorem holdsLines_lineBytes {line : String} (oneLine : '\n' ∉ line.toList) :
    HoldsLines (lineBytes line) 1 where
  newlines := by rw [count_newline_lineBytes, List.count_eq_zero_of_not_mem oneLine]
  ended := getLast?_lineBytes line

/-! ## Printed reports -/

namespace Text

theorem newline_notMem_terminalCode (number : Nat) : '\n' ∉ (terminalCode number).toList := by
  rw [terminalCode, String.toList_append, String.toList_append, List.mem_append, List.mem_append,
    not_or, not_or]
  exact ⟨⟨by decide, newline_notMem_decimalText number⟩, by decide⟩

/-- Emphasis adds no line break. -/
theorem count_newline_emphasize (emphasis : Emphasis) (useColor : Bool) (text : String) :
    (emphasize emphasis useColor text).toList.count '\n' = text.toList.count '\n' := by
  have code : ∀ number, (terminalCode number).toList.count '\n' = 0 :=
    fun number => List.count_eq_zero_of_not_mem (newline_notMem_terminalCode number)
  have codes : (String.join (emphasis.codes.map terminalCode)).toList.count '\n' = 0 := by
    cases emphasis <;> simp [Emphasis.codes, String.join, code]
  rw [emphasize]
  split
  · rw [String.toList_append, String.toList_append, List.count_append, List.count_append, codes,
      code, Nat.zero_add, Nat.add_zero]
  · rfl

/-- Padding adds no line break. -/
theorem count_newline_padLeft (width : Nat) (text : String) :
    (padLeft width text).toList.count '\n' = text.toList.count '\n' := by
  rw [padLeft, spaces, String.toList_append, String.toList_ofList, List.count_append,
    List.count_replicate]
  exact Nat.zero_add _

end Text

/-- The line breaks of an input that stay in a record: JSON escapes them. -/
def OutputFormat.breaks : OutputFormat → String → Nat
  | text, input => input.toList.count '\n'
  | json, _ => 0

/-- No line break stays if the format escapes them or there is none. -/
theorem OutputFormat.sum_breaks_eq_zero_iff (format : OutputFormat) (inputs : List String) :
    (inputs.map format.breaks).sum = 0 ↔
      format = .json ∨ ∀ input ∈ inputs, '\n' ∉ input.toList := by
  rw [List.sum_eq_zero_iff_forall_eq_nat, List.forall_mem_map]
  cases format with
  | json => exact iff_of_true (fun _ _ => rfl) (.inl rfl)
  | text => simp [breaks, List.count_eq_zero]

namespace Printer

variable (printer : Printer) {report : Report} (oneLine : '\n' ∉ report.display.toList)
include oneLine

theorem count_newline_display : (printer.display report).toList.count '\n' = 0 := by
  have none := List.count_eq_zero_of_not_mem oneLine
  rw [display]
  cases report.phase with
  | empty => exact none
  | entering => exact none
  | resultShown => exact (Text.count_newline_emphasize ..).trans none
  | errorShown => exact (Text.count_newline_emphasize ..).trans none

/-- **A report is one line.** -/
theorem newline_notMem_report : '\n' ∉ (printer.report report).toList := by
  cases inFormat : printer.format with
  | json =>
      rw [Command.report_json inFormat]
      exact Json.newline_notMem_text _
  | text =>
      rw [Printer.report, inFormat]
      exact List.count_eq_zero.mp (printer.count_newline_display oneLine)

/-- **A record of a trace has the line breaks of its input**, unless they are escaped. -/
theorem count_newline_trace :
    (printer.trace report).toList.count '\n' = printer.format.breaks report.input := by
  cases inFormat : printer.format with
  | json =>
      rw [Command.trace_json inFormat]
      exact List.count_eq_zero_of_not_mem (Json.newline_notMem_text _)
  | text =>
      rw [trace, inFormat]
      dsimp only
      rw [String.toList_append, String.toList_append, List.count_append, List.count_append,
        Text.count_newline_emphasize, Text.count_newline_padLeft,
        printer.count_newline_display oneLine]
      rfl

end Printer

/-! ## Reports of commands -/

/-- Whatever names are pressed on a new calculator, its display is one line. -/
theorem Session.newline_notMem_pressAll (names : List String) (input : String) :
    '\n' ∉ ((new.pressAll names).1.report input).display.toList := by
  obtain ⟨messages, sent⟩ := exists_sendAll_pressAll new names
  show '\n' ∉ (new.pressAll names).1.calculator.state.text.toList
  rw [sent, state_sendAll]
  exact DisplayState.newline_notMem_run List.not_mem_nil messages

namespace Command

theorem newline_notMem_of_mem_pressReports {names : List String} {report : Report}
    (member : report ∈ pressReports names) : '\n' ∉ report.display.toList := by
  rw [pressReports, Session.pressEach_eq] at member
  obtain ⟨pressed, isPressed, rfl⟩ := List.mem_map.mp member
  obtain ⟨index, within, rfl⟩ := List.mem_mapIdx.mp isPressed
  exact Session.newline_notMem_pressAll _ _

/-- The records of a trace are headed by the accepted names. -/
theorem map_input_pressReports (names : List String) :
    (pressReports names).map Report.input = Keypad.accepted names := by
  rw [pressReports, Session.pressEach_eq, List.mapIdx_eq_zipIdx_map, List.map_map, List.map_map]
  exact List.zipIdx_map_fst 0 _

section loud

variable {settings : Settings} (loud : settings.isQuiet = false) (terminal : Bool)
  (input : List UInt8)
include loud

/-- **The lines of a trace**, if all its names are known. -/
theorem holdsLines_traced {names : List String} (nonempty : names ≠ [])
    (known : ∀ name ∈ names, Keypad.knows name = true) :
    HoldsLines ((press names true).run settings terminal input).bytes
      (names.length + (names.map settings.format.breaks).sum) := by
  let printer := Printer.ofSettings settings terminal
  have accepted := Keypad.accepted_of_known known
  have records : (pressReports names).length = names.length := by
    rw [length_pressReports, accepted]
  have some_record : (pressReports names).map printer.trace ≠ [] := by
    rw [ne_eq, List.map_eq_nil_iff, ← List.length_eq_zero_iff, records, List.length_eq_zero_iff]
    exact nonempty
  have breaks : ((pressReports names).map printer.trace).map (fun line => line.toList.count '\n')
      = names.map settings.format.breaks := by
    calc ((pressReports names).map printer.trace).map (fun line => line.toList.count '\n')
        = (pressReports names).map fun report => settings.format.breaks report.input := by
          rw [List.map_map]
          exact List.map_congr_left fun report member =>
            printer.count_newline_trace (newline_notMem_of_mem_pressReports member)
      _ = ((pressReports names).map Report.input).map settings.format.breaks := by
          rw [List.map_map]
          rfl
      _ = names.map settings.format.breaks := by rw [map_input_pressReports, accepted]
  have written := holdsLines_flatMap some_record
  rw [breaks, List.length_map, records] at written
  rw [bytes_press_traced, unlessQuiet_of_loud loud]
  exact written

/-- **An expression is reported on one line.** -/
theorem holdsLines_eval (expression : String) :
    HoldsLines ((eval expression).run settings terminal input).bytes 1 := by
  have bytes : ((eval expression).run settings terminal input).bytes =
      (unlessQuiet settings [(Printer.ofSettings settings terminal).report
        (outcomeReport expression (Evaluation.evaluate expression))]).flatMap lineBytes := rfl
  rw [bytes, unlessQuiet_of_loud loud, List.flatMap_singleton]
  exact holdsLines_lineBytes
    (Printer.newline_notMem_report _ (DisplayState.newline_notMem_outcomeText _))

/-- **Pressed buttons are reported on one line**, if all their names are known. -/
theorem holdsLines_plain {names : List String}
    (known : ∀ name ∈ names, Keypad.knows name = true) :
    HoldsLines ((press names false).run settings terminal input).bytes 1 := by
  rw [bytes_press_plain, pressReport?_of_known known, unlessQuiet_of_loud loud, Option.map_some,
    Option.toList_some, List.flatMap_singleton]
  exact holdsLines_lineBytes
    (Printer.newline_notMem_report _ (Session.newline_notMem_pressAll names _))

end loud

/-- **A trace has a record for each name, which is one line unless the name brings in line
breaks of its own.** Under settings that are not quiet, the trace of a row of known names
holds as many lines as names, and one more for each line break in a name that is printed as
it is; so there is one line for each name exactly if the output is JSON, which escapes them,
or no name has a line break.  Without a trace the row is reported on one line, and so is an
expression. -/
theorem lines_written {settings : Settings} (loud : settings.isQuiet = false) (terminal : Bool)
    (input : List UInt8) :
    let written := fun command : Command => (command.perform settings terminal input {}).2.kept
    (∀ names : List String, names ≠ [] →
        (∀ name ∈ names, (Keypad.findByLabel? name).isSome = true) →
      HoldsLines (written (press names true))
          (names.length + (names.map settings.format.breaks).sum) ∧
        (HoldsLines (written (press names true)) names.length ↔
          settings.format = .json ∨ ∀ name ∈ names, '\n' ∉ name.toList) ∧
        HoldsLines (written (press names false)) 1) ∧
      ∀ expression, HoldsLines (written (eval expression)) 1 := by
  intro written
  have kept : ∀ command, written command = (command.run settings terminal input).bytes :=
    fun command => kept_perform settings terminal command input
  refine ⟨fun names nonempty known => ?_, fun expression => ?_⟩
  · have traced := holdsLines_traced loud terminal input nonempty known
    rw [kept, kept]
    refine ⟨traced, ?_, holdsLines_plain loud terminal input known⟩
    rw [traced.iff_eq, Nat.left_eq_add, OutputFormat.sum_breaks_eq_zero_iff]
  · rw [kept]
    exact holdsLines_eval loud terminal input expression

/-- Two buttons, one of which is called by its name and a line break. -/
theorem lines_written_name_with_break :
    Settings.isQuiet {} = false ∧ ["7\n", "="] ≠ [] ∧
      (∀ name ∈ ["7\n", "="], (Keypad.findByLabel? name).isSome = true) ∧
      HoldsLines ((press ["7\n", "="] true).perform {} false [] {}).2.kept 3 := by
  have loud : Settings.isQuiet {} = false := rfl
  have nonempty : ["7\n", "="] ≠ [] := List.cons_ne_nil _ _
  have known : ∀ name ∈ ["7\n", "="], (Keypad.findByLabel? name).isSome = true := by
    decide +kernel
  have lines := ((lines_written loud false []).1 ["7\n", "="] nonempty known).1
  exact ⟨loud, nonempty, known, lines⟩

/-- **Not every trace has one line for each name.** -/
theorem not_one_line_per_name :
    ¬∀ (settings : Settings) (terminal : Bool) (input : List UInt8) (names : List String),
      settings.isQuiet = false → names ≠ [] →
        (∀ name ∈ names, (Keypad.findByLabel? name).isSome = true) →
          HoldsLines ((press names true).perform settings terminal input {}).2.kept
            names.length := by
  intro all
  have nonempty : ["7\n"] ≠ [] := List.cons_ne_nil _ _
  have known : ∀ name ∈ ["7\n"], (Keypad.findByLabel? name).isSome = true := by decide +kernel
  have loud : Settings.isQuiet {} = false := rfl
  have one := all {} false [] ["7\n"] loud nonempty known
  have two := holdsLines_traced loud false [] nonempty known
  rw [kept_perform, two.iff_eq] at one
  exact absurd one (by decide)

end Command
end PocketCalculator
