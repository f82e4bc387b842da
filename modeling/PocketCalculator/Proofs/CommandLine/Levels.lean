import PocketCalculator.CommandLine.Level

/-!
# Steps of a level

An argument is taken as a flag or an option (`Level.takeAll_taken`), as the value that an
option waits for (`Level.takeAll_value`), or as an operand (`Level.takeAll_operand`).  What it
does then depends on the level alone on which the open option is closed
(`Level.raise_of_settle`, `Level.openOption_of_settle`, `Level.takeOperand_press`): on such a
level a flag sets its field, and a second time is refused where only one is allowed.
-/

set_option autoImplicit false

namespace PocketCalculator
namespace CommandLine

/-- Whether a word is an operand wherever it stands: a hyphen alone, or a word that does not
begin with a hyphen. -/
def IsOperand (word : String) : Prop := word = "-" ∨ word.toList.head? ≠ some '-'

instance (word : String) : Decidable (IsOperand word) := inferInstanceAs (Decidable (_ ∨ _))

namespace Shape

theorem ofChars_of_head?_ne {text : List Char} (noHyphen : text.head? ≠ some '-') :
    ofChars text = plain := by
  cases text with
  | nil => rfl
  | cons c rest =>
      rw [List.head?_cons, ne_eq, Option.some.injEq] at noHyphen
      unfold ofChars
      split <;> simp_all

theorem of_isOperand {word : String} (operand : IsOperand word) : of word = plain := by
  rcases operand with rfl | noHyphen
  · rfl
  · exact ofChars_of_head?_ne noHyphen

/-- A hyphen and then anything but a hyphen makes letters. -/
theorem ofChars_letters {c : Char} (noHyphen : c ≠ '-') (rest : List Char) :
    ofChars ('-' :: c :: rest) = letters (c :: rest) := by
  unfold ofChars
  split <;> simp_all

end Shape

namespace Level

/-! ## Closing the open option -/

section settled

variable {level base : Level}

/-- A level without an open option is settled. -/
theorem settle_of_closed (closed : level.pending = none) : level.settle = .ok level := by
  rw [settle, closed]

variable (settled : level.settle = .ok base) (closed : base.pending = none)
include settled closed

theorem raise_of_settle (command : Option CommandName) (flag : Flag) :
    level.raise command flag = base.raise command flag := by
  rw [raise, raise, settled, settle_of_closed closed]

theorem raiseLetters_of_settle (command : Option CommandName) (letter : Char) (rest : List Char) :
    level.raiseLetters command (letter :: rest) = base.raiseLetters command (letter :: rest) := by
  rw [raiseLetters, raiseLetters]
  cases Flag.ofLetter? command letter with
  | none => rfl
  | some flag => simp only [raise_of_settle settled closed]

theorem openOption_of_settle (option : ValueOption) (value : Option String) :
    level.openOption option value = base.openOption option value := by
  rw [openOption, openOption, settled, settle_of_closed closed]

omit closed in
theorem takeOperand_press (word : String) :
    level.takeOperand .press word = .ok { base with operands := base.operands ++ [word] } := by
  rw [takeOperand, settled]
  rfl

end settled

/-! ## Flags and options on a settled level -/

section closed

variable {level : Level} (closed : level.pending = none) {command : Option CommandName}
include closed

theorem raise_verbose :
    level.raise command .verbose = .ok { level with verbose := level.verbose + 1 } := by
  rw [raise, settle_of_closed closed]
  rfl

theorem raise_quiet (fresh : level.quiet = false) :
    level.raise command .quiet = .ok { level with quiet := true } := by
  rw [raise, settle_of_closed closed]
  exact if_neg (by rw [fresh]; exact Bool.false_ne_true)

theorem raise_trace (fresh : level.trace = false) :
    level.raise command .trace = .ok { level with trace := true } := by
  rw [raise, settle_of_closed closed]
  exact if_neg (by rw [fresh]; exact Bool.false_ne_true)

/-- An option with its value behind the equals sign is assigned at once. -/
theorem openOption_attached (option : ValueOption) (value : String) :
    level.openOption option (some value) = level.assign option value := by
  rw [openOption, settle_of_closed closed]
  rfl

/-- An option alone waits for its value. -/
theorem openOption_alone (option : ValueOption) :
    level.openOption option none = .ok { level with pending := some { option } } := by
  rw [openOption, settle_of_closed closed]
  rfl

end closed

/-! ## Taking flags and options -/

section option

variable {level next : Level} {command : Option CommandName} {argument : String}

theorem takeOption?_flag {flag : Flag} (available : Flag.ofWord? command flag.word = some flag)
    (raised : level.raise command flag = .ok next) :
    level.takeOption? command argument (.long flag.word none) = .ok (some next) := by
  rw [takeOption?, available]
  dsimp only
  rw [raised]
  rfl

theorem takeOption?_option {option : ValueOption} {value : Option String}
    (noFlag : Flag.ofWord? command option.word = none)
    (opened : level.openOption option value = .ok next) :
    level.takeOption? command argument (.long option.word value) = .ok (some next) := by
  have named : ValueOption.ofWord? option.word = some option := by cases option <;> decide
  rw [takeOption?, noFlag, named]
  dsimp only
  rw [opened]
  rfl

theorem takeOption?_letters {letters : List Char} (noHyphens : level.takesHyphens command = false)
    (raised : level.raiseLetters command letters = .ok next) :
    level.takeOption? command argument (.letters letters) = .ok (some next) := by
  rw [takeOption?, noHyphens, Bool.false_and, if_neg Bool.false_ne_true, raised]
  rfl

end option

/-! ## The next argument -/

section next

variable {level next : Level} {command : CommandName} {argument : String} {shape : Shape}
  (has : Shape.of argument = shape) (word : shape ≠ .separator)
include has word

theorem takeAll_cons (rest : List String) :
    level.takeAll command (argument :: rest) =
      (level.takeOption? (some command) argument shape).bind fun taken =>
        match taken with
        | some next => next.takeAll command rest
        | none =>
            if level.awaitsValue then (level.takeValue argument).takeAll command rest
            else (level.takeOperand command argument).bind fun next =>
              next.takeAll command rest := by
  rw [takeAll, has]
  cases shape with
  | separator => contradiction
  | _ => rfl

/-- An argument that is a flag or an option is taken as that. -/
theorem takeAll_taken (taken : level.takeOption? (some command) argument shape = .ok (some next))
    (rest : List String) :
    level.takeAll command (argument :: rest) = next.takeAll command rest := by
  rw [takeAll_cons has word, taken]
  rfl

variable (other : level.takeOption? (some command) argument shape = .ok none)
include other

/-- Any other argument is the value of the option that waits for one. -/
theorem takeAll_value (waits : level.awaitsValue = true) (rest : List String) :
    level.takeAll command (argument :: rest) = (level.takeValue argument).takeAll command rest := by
  rw [takeAll_cons has word, other, Except.bind, if_pos waits]

/-- If none waits, it is an operand. -/
theorem takeAll_operand (ready : level.awaitsValue = false)
    (taken : level.takeOperand command argument = .ok next) (rest : List String) :
    level.takeAll command (argument :: rest) = next.takeAll command rest := by
  rw [takeAll_cons has word, other, Except.bind, ready, if_neg Bool.false_ne_true, taken]
  rfl

end next

end Level
end CommandLine
end PocketCalculator
