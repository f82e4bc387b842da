import Mathlib.Data.List.Basic
import PocketCalculator.Proofs.CommandLine.Items

/-!
# Operands among flags

A command line for pressing is read as the command and the settings that its items ask for
(`read_items`), and the settings are told by the flags and options alone, in whatever order
and wherever they stand (`settingsAsked_of_perm`).  An expression is taken as it is behind a
separator, and without one if it does not look like an option (`takeAll_eval`).

**Operands reach the command as they were given, and flags may stand anywhere**
(`read_verbatim`).
-/

set_option autoImplicit false

namespace PocketCalculator
namespace CommandLine

/-! ## Positions -/

/-- The flags and options in a row of items. -/
def switchesOf (items : List Item) : List Item := items.filter fun item => item.operand?.isNone

/-- Of choices that can be made once the first does not depend on the order. -/
theorem head?_eq_of_perm {α : Type} {first second : List α} (perm : first.Perm second)
    (once : second.length ≤ 1) : first.head? = second.head? := by
  match second, once with
  | [], _ => rw [perm.eq_nil]
  | [only], _ => rw [perm.eq_singleton]

/-- What no operand has a part in is told by the flags and options alone. -/
theorem flatMap_switchesOf {β : Type} {part : Item → List β}
    (noOperand : ∀ word, part (.operand word) = []) (items : List Item) :
    (switchesOf items).flatMap part = items.flatMap part := by
  induction items with
  | nil => rfl
  | cons item rest ih =>
      cases item with
      | operand word => exact ih.trans (by rw [List.flatMap_cons, noOperand, List.nil_append])
      | _ => exact congrArg (part _ ++ ·) ih

theorem perm_flatMap_of_switches {β : Type} {part : Item → List β}
    (noOperand : ∀ word, part (.operand word) = []) {first second : List Item}
    (perm : (switchesOf first).Perm (switchesOf second)) :
    (first.flatMap part).Perm (second.flatMap part) := by
  rw [← flatMap_switchesOf noOperand first, ← flatMap_switchesOf noOperand second]
  exact perm.flatMap_right part

theorem perm_filterMap_of_switches {β : Type} {part : Item → Option β}
    (noOperand : ∀ word, part (.operand word) = none) {first second : List Item}
    (perm : (switchesOf first).Perm (switchesOf second)) :
    (first.filterMap part).Perm (second.filterMap part) := by
  rw [List.filterMap_eq_flatMap_toList, List.filterMap_eq_flatMap_toList]
  exact perm_flatMap_of_switches (fun word => congrArg Option.toList (noOperand word)) perm

/-- **The settings that items ask for depend on the flags and options alone, wherever they
stand.** -/
theorem settingsAsked_of_perm {items other : List Item} (admissible : Admissible items)
    (perm : (switchesOf other).Perm (switchesOf items)) :
    settingsAsked other = settingsAsked items := by
  have volumes : (volumesOf other).Perm (volumesOf items) :=
    perm_flatMap_of_switches (fun _ => rfl) perm
  have colors : (colorsOf other).Perm (colorsOf items) :=
    perm_filterMap_of_switches (fun _ => rfl) perm
  have formats : (formatsOf other).Perm (formatsOf items) :=
    perm_filterMap_of_switches (fun _ => rfl) perm
  rw [settingsAsked, settingsAsked, verbosityAsked, verbosityAsked,
    head?_eq_of_perm colors admissible.colors, head?_eq_of_perm formats admissible.formats]
  simp only [volumes.mem_iff, volumes.count_eq]

/-! ## Command lines -/

/-- The command line of a row of items. -/
def pressLine (items : List Item) : List String :=
  CommandName.press.word :: items.flatMap Item.arguments

/-- The word for a command at the front is read as that command. -/
theorem read_word (name : CommandName) (arguments : List String) :
    read (name.word :: arguments) = readCommand {} name arguments := by
  cases name <;> rfl

theorem verbosityOf_levelAsked (items : List Item) :
    verbosityOf {} (levelAsked items) = verbosityAsked items := by
  have count : (if (levelAsked items).verbose = 0 then ({} : Level).verbose
      else (levelAsked items).verbose) = (volumesOf items).count .verbose := by
    split
    · rename_i zero
      exact zero.symm
    · rfl
  rw [verbosityOf, verbosityAsked, count]
  by_cases quiet : .quiet ∈ volumesOf items
  · rw [if_pos quiet]
    exact if_pos (by simpa [levelAsked] using quiet)
  · rw [if_neg quiet]
    exact if_neg (by simpa [levelAsked] using quiet)

theorem settingsOf_levelAsked (items : List Item) :
    settingsOf {} (levelAsked items) = settingsAsked items := by
  rw [settingsOf, verbosityOf_levelAsked, settingsAsked, Option.or_none, Option.or_none]
  rfl

theorem commandOf_press {level : Level} (nonempty : level.operands ≠ []) :
    commandOf .press level = .ok (.press level.operands level.trace) := by
  cases operands : level.operands with
  | nil => contradiction
  | cons first rest => simp only [commandOf, operands]

/-- **A row of items is read as the command and the settings that it asks for.** -/
theorem read_items {items : List Item} (admissible : Admissible items)
    (nonempty : operandsOf items ≠ []) :
    read (pressLine items) = .ok
      { command := .press (operandsOf items) (decide (.trace ∈ items))
        settings := settingsAsked items } := by
  have taken : Level.takeAll {} .press (items.flatMap Item.arguments) = .ok (levelAsked items) :=
    (Level.Took.asked []).takeAll admissible
  have command : commandOf .press (levelAsked items) =
      .ok (.press (operandsOf items) (items.contains .trace)) := commandOf_press nonempty
  rw [pressLine, read_word, readCommand, taken, ← settingsOf_levelAsked, ← List.contains_eq_mem]
  simp only [command, bind, Except.bind]
  rfl

/-- An expression is the operand of its command. -/
theorem read_eval {arguments : List String} {expression : String}
    (taken : Level.takeAll {} .eval arguments = .ok { operands := [expression] }) :
    read (CommandName.eval.word :: arguments)
      = .ok { command := .eval expression, settings := {} } := by
  rw [read_word, readCommand, taken]
  rfl

/-- No digit is the letter of a flag. -/
theorem Flag.ofLetter?_of_isDigit {digit : Char} (isDigit : digit.isDigit = true)
    (command : Option CommandName) : ofLetter? command digit = none := by
  refine List.find?_eq_none.mpr fun flag _ named => ?_
  cases flag <;> simp [letter?] at named <;> subst named <;> contradiction

/-- A word that does not look like an option is an expression. -/
theorem takeAll_eval {expression : String}
    (looks : IsOperand expression ∨
      ∃ digit rest, expression.toList = '-' :: digit :: rest ∧ digit.isDigit = true) :
    Level.takeAll {} .eval [expression] = .ok { operands := [expression] } := by
  have taken : Level.takeOperand {} .eval expression = .ok { operands := [expression] } := rfl
  rcases looks with operand | ⟨digit, rest, text, isDigit⟩
  · exact Level.takeAll_operand (Shape.of_isOperand operand) (by decide) rfl rfl taken []
  · have noHyphen : digit ≠ '-' := by
      rintro rfl
      contradiction
    have shape : Shape.of expression = .letters (digit :: rest) := by
      rw [Shape.of, text, Shape.ofChars_letters noHyphen]
    have other : Level.takeOption? {} (some .eval) expression (.letters (digit :: rest))
        = .ok none := by
      rw [Level.takeOption?, List.any_cons, Flag.ofLetter?_of_isDigit isDigit]
      rfl
    exact Level.takeAll_operand shape Shape.noConfusion other rfl taken []

/-- **Operands reach their command as they were given, and flags may stand anywhere.** Behind
the word for pressing, a row of items with an operand is read as pressing its operands, in
order, with a trace if one is asked for, under the settings that its flags and options ask
for; wherever these stand, the settings are the same.  An expression behind a separator is
taken as it is, and so is an expression alone that begins with no hyphen or with one before a
digit. -/
theorem read_verbatim {items : List Item} (admissible : Admissible items)
    (nonempty : operandsOf items ≠ []) :
    read (pressLine items) = .ok
        { command := .press (operandsOf items) (decide (.trace ∈ items))
          settings := settingsAsked items } ∧
      (∀ other, Admissible other → operandsOf other ≠ [] →
        (switchesOf other).Perm (switchesOf items) →
          (read (pressLine other)).map Request.settings
            = (read (pressLine items)).map Request.settings) ∧
      (∀ expression, read [CommandName.eval.word, "--", expression]
        = .ok { command := .eval expression, settings := {} }) ∧
      (∀ expression : String,
        (expression.toList.head? ≠ some '-' ∨
          ∃ digit rest, expression.toList = '-' :: digit :: rest ∧ digit.isDigit = true) →
        read [CommandName.eval.word, expression]
          = .ok { command := .eval expression, settings := {} }) := by
  refine ⟨read_items admissible nonempty, ?_, fun expression => read_eval rfl, ?_⟩
  · intro other otherAdmissible otherNonempty perm
    rw [read_items admissible nonempty, read_items otherAdmissible otherNonempty,
      settingsAsked_of_perm admissible perm]
    rfl
  · intro expression looks
    exact read_eval (takeAll_eval (looks.imp_left .inr))

/-- Flags, options and operands in turn, one of these empty and one a hyphen alone. -/
theorem read_verbatim_among_flags :
    let items : List Item := [.letters .verbose [.verbose], .operand "7",
      .option (.color .never) false, .operand "-", .trace, .operand "",
      .option (.format .json) true]
    Admissible items ∧ operandsOf items ≠ [] ∧
      pressLine items = ["press", "-vv", "7", "--color", "never", "-", "--trace", "",
        "--format=json"] ∧
      read (pressLine items) = .ok
        { command := .press ["7", "-", ""] true
          settings := { verbosity := .debug, color := .never, format := .json } } := by
  intro items
  have admissible : Admissible items := by
    constructor <;> decide +kernel
  have nonempty : operandsOf items ≠ [] := by decide
  exact ⟨admissible, nonempty, by decide +kernel, (read_verbatim admissible nonempty).1⟩

end CommandLine
end PocketCalculator
