import PocketCalculator.CommandLine.Request
import PocketCalculator.Proofs.CommandLine.Levels

/-!
# Operands, flags and options in a row

Behind the word for pressing stand operands, flags and options with their values, in any
order (`Item`).  What a row of items asks for is told by the operands, the changes of the
volume, the choices of colour and the formats in it, each in their own order and wherever they
stand (`levelAsked`, `settingsAsked`).

A level that has taken some items settles to the level they ask for (`Level.Took`), although an
option may still be open on it.  One more item keeps this up, unless it repeats what can be
given once (`Level.Took.step`), so **a whole row is taken as what it asks for**
(`Level.Took.takeAll`).
-/

set_option autoImplicit false

namespace PocketCalculator
namespace CommandLine

/-! ## Items -/

/-- A flag that changes how much is said. -/
inductive Volume where
  | verbose
  | quiet
deriving DecidableEq, Repr

namespace Volume

/-- The flag that changes the volume. -/
def flag : Volume → Flag
  | verbose => .verbose
  | quiet => .quiet

/-- The letter of the flag. -/
def letter : Volume → Char
  | verbose => 'v'
  | quiet => 'q'

end Volume

/-- An option and a value that it can have. -/
inductive Choice where
  | color (choice : ColorChoice)
  | format (format : OutputFormat)
deriving DecidableEq, Repr

namespace Choice

/-- The option. -/
def option : Choice → ValueOption
  | color _ => .color
  | format _ => .format

/-- The value as it is written. -/
def value : Choice → String
  | color .auto => "auto"
  | color .always => "always"
  | color .never => "never"
  | format .text => "text"
  | format .json => "json"

/-- The choice that a value of an option makes. -/
def ofValue? : ValueOption → String → Option Choice
  | .color, value => (colorOfValue? value).map color
  | .format, value => (formatOfValue? value).map format

/-- Every choice is made by its value alone. -/
theorem ofValue?_eq_some_iff {option : ValueOption} {value : String} {choice : Choice} :
    ofValue? option value = some choice ↔ choice.option = option ∧ choice.value = value := by
  constructor
  · intro made
    cases option with
    | color =>
        obtain ⟨color, named, rfl⟩ := Option.map_eq_some_iff.mp made
        unfold colorOfValue? at named
        split at named <;> cases named <;> exact ⟨rfl, rfl⟩
    | format =>
        obtain ⟨format, named, rfl⟩ := Option.map_eq_some_iff.mp made
        unfold formatOfValue? at named
        split at named <;> cases named <;> exact ⟨rfl, rfl⟩
  · rintro ⟨rfl, rfl⟩
    rcases choice with (_ | _ | _) | (_ | _) <;> rfl

end Choice

/-- What can stand behind the word for pressing: an operand, a flag, flags by their letters
behind one hyphen, or an option with its value, behind an equals sign or as an argument. -/
inductive Item where
  | operand (word : String)
  | trace
  | long (volume : Volume)
  | letters (first : Volume) (others : List Volume)
  | option (choice : Choice) (attached : Bool)
deriving DecidableEq, Repr

namespace Item

/-- The arguments that an item is written as. -/
def arguments : Item → List String
  | operand word => [word]
  | trace => [Level.optionName Flag.trace.word]
  | long volume => [Level.optionName volume.flag.word]
  | letters first others => [String.ofList ('-' :: (first :: others).map Volume.letter)]
  | option choice true => [Level.optionName choice.option.word ++ "=" ++ choice.value]
  | option choice false => [Level.optionName choice.option.word, choice.value]

/-- The operand that an item is, if it is one. -/
def operand? : Item → Option String
  | operand word => some word
  | _ => none

/-- The changes of the volume that an item makes. -/
def volumes : Item → List Volume
  | long volume => [volume]
  | letters first others => first :: others
  | _ => []

/-- The colour that an item chooses. -/
def color? : Item → Option ColorChoice
  | option (.color choice) _ => some choice
  | _ => none

/-- The format that an item chooses. -/
def format? : Item → Option OutputFormat
  | option (.format format) _ => some format
  | _ => none

end Item

/-! ## What items ask for -/

/-- The operands in a row of items. -/
def operandsOf (items : List Item) : List String := items.filterMap Item.operand?

/-- The changes of the volume in a row of items. -/
def volumesOf (items : List Item) : List Volume := items.flatMap Item.volumes

/-- The choices of colour in a row of items. -/
def colorsOf (items : List Item) : List ColorChoice := items.filterMap Item.color?

/-- The formats in a row of items. -/
def formatsOf (items : List Item) : List OutputFormat := items.filterMap Item.format?

/-- Items that can stand in one row: their operands do not look like options, and nothing is
repeated but the flag that asks for more output. -/
structure Admissible (items : List Item) : Prop where
  operands : ∀ word ∈ operandsOf items, IsOperand word
  trace : items.count .trace ≤ 1
  quiet : (volumesOf items).count .quiet ≤ 1
  colors : (colorsOf items).length ≤ 1
  formats : (formatsOf items).length ≤ 1

/-- The verbosity that a row of items asks for. -/
def verbosityAsked (items : List Item) : Verbosity :=
  if .quiet ∈ volumesOf items then .quiet
  else
    match (volumesOf items).count .verbose with
    | 0 => .normal
    | 1 => .verbose
    | _ => .debug

/-- The settings that a row of items asks for. -/
def settingsAsked (items : List Item) : Settings :=
  { verbosity := verbosityAsked items
    color := (colorsOf items).head?.getD .auto
    format := (formatsOf items).head?.getD .text }

/-- The level that a row of items asks for. -/
def levelAsked (items : List Item) : Level :=
  { verbose := (volumesOf items).count .verbose
    quiet := (volumesOf items).contains .quiet
    color := (colorsOf items).head?
    format := (formatsOf items).head?
    trace := items.contains .trace
    operands := operandsOf items }

/-! ## The shapes of items -/

theorem Shape.of_flag (flag : Flag) : of (Level.optionName flag.word) = long flag.word none := by
  cases flag <;> rfl

theorem Shape.of_option (option : ValueOption) :
    of (Level.optionName option.word) = long option.word none := by
  cases option <;> rfl

theorem Shape.of_attached (choice : Choice) :
    of (Level.optionName choice.option.word ++ "=" ++ choice.value)
      = long choice.option.word (some choice.value) := by
  rcases choice with (_ | _ | _) | (_ | _) <;> rfl

theorem Shape.of_value (choice : Choice) : of choice.value = plain := by
  rcases choice with (_ | _ | _) | (_ | _) <;> rfl

theorem Volume.letter_ne_hyphen (volume : Volume) : volume.letter ≠ '-' := by
  cases volume <;> decide

theorem Shape.of_letters (first : Volume) (others : List Volume) :
    of (String.ofList ('-' :: (first :: others).map Volume.letter))
      = letters ((first :: others).map Volume.letter) := by
  rw [of, String.toList_ofList]
  exact ofChars_letters first.letter_ne_hyphen _

namespace Level

/-! ## Items on a settled level -/

/-- The level after flags that change the volume. -/
def turn (level : Level) (volumes : List Volume) : Level :=
  { level with
    verbose := level.verbose + volumes.count .verbose
    quiet := level.quiet || volumes.contains .quiet }

/-- The level after a choice. -/
def choose (level : Level) : Choice → Level
  | .color choice => { level with color := some choice }
  | .format format => { level with format := some format }

/-- Whether a choice like the given one has been made on a level. -/
def hasChosen (level : Level) : Choice → Bool
  | .color _ => level.color.isSome
  | .format _ => level.format.isSome

/-- **An option takes a value that makes a choice, and no second one.** -/
theorem assign_eq_ok_iff {level next : Level} {option : ValueOption} {value : String} :
    level.assign option value = .ok next ↔
      ∃ choice, Choice.ofValue? option value = some choice ∧
        level.hasChosen choice = false ∧ level.choose choice = next := by
  cases option with
  | color =>
      rw [assign, Choice.ofValue?]
      cases fresh : level.color.isSome <;> cases colorOfValue? value <;>
        simp [hasChosen, choose, fresh]
  | format =>
      rw [assign, Choice.ofValue?]
      cases fresh : level.format.isSome <;> cases formatOfValue? value <;>
        simp [hasChosen, choose, fresh]

theorem raise_volume {level : Level} (closed : level.pending = none) {volume : Volume}
    (once : [volume].count .quiet ≤ if level.quiet then 0 else 1) (command : Option CommandName) :
    level.raise command volume.flag = .ok (level.turn [volume]) := by
  cases volume with
  | verbose =>
      rw [Volume.flag, raise_verbose closed, turn]
      simp
  | quiet =>
      have fresh : level.quiet = false := by
        cases quiet : level.quiet with
        | false => rfl
        | true => simp [quiet] at once
      rw [Volume.flag, raise_quiet closed fresh, turn]
      simp

theorem turn_turn (level : Level) (first second : List Volume) :
    (level.turn first).turn second = level.turn (first ++ second) := by
  simp [turn, Nat.add_assoc, Bool.or_assoc]

/-- **Flags that change the volume are raised in turn**, if there is one of quietness at most. -/
theorem raiseLetters_volumes {level : Level} (closed : level.pending = none)
    {volumes : List Volume} (once : volumes.count .quiet ≤ if level.quiet then 0 else 1) :
    level.raiseLetters (some .press) (volumes.map Volume.letter) = .ok (level.turn volumes) := by
  induction volumes generalizing level with
  | nil => simp [raiseLetters, turn]
  | cons volume rest ih =>
      have letter : Flag.ofLetter? (some .press) volume.letter = some volume.flag := by
        cases volume <;> decide
      have first : [volume].count .quiet ≤ if level.quiet then 0 else 1 :=
        Nat.le_trans ((List.Sublist.cons_cons volume rest.nil_sublist).count_le _) once
      have others : rest.count .quiet ≤ if (level.turn [volume]).quiet then 0 else 1 := by
        cases volume <;> cases quiet : level.quiet <;> simp_all [turn]
      have goesOn := ih (show (level.turn [volume]).pending = none from closed) others
      rw [turn_turn] at goesOn
      rw [List.map_cons, raiseLetters, letter]
      dsimp only
      rw [raise_volume closed first]
      exact goesOn

end Level

/-! ## Items added to a row -/

section append

variable (done : List Item)

theorem filterMap_append_singleton {β : Type} (part : Item → Option β) (item : Item) :
    (done ++ [item]).filterMap part = done.filterMap part ++ (part item).toList := by
  rw [List.filterMap_append, List.filterMap_cons]
  cases part item <;> rfl

theorem volumesOf_append_singleton (item : Item) :
    volumesOf (done ++ [item]) = volumesOf done ++ item.volumes := by
  simp [volumesOf]

/-- **One more item adds its own part to what a row asks for.** -/
theorem levelAsked_append_singleton (item : Item) :
    levelAsked (done ++ [item]) =
      { (levelAsked done).turn item.volumes with
        color := (colorsOf done ++ item.color?.toList).head?
        format := (formatsOf done ++ item.format?.toList).head?
        trace := (done ++ [item]).contains .trace
        operands := operandsOf done ++ item.operand?.toList } := by
  rw [levelAsked, volumesOf_append_singleton, operandsOf, colorsOf, formatsOf,
    filterMap_append_singleton, filterMap_append_singleton, filterMap_append_singleton]
  simp [levelAsked, Level.turn, operandsOf, colorsOf, formatsOf]

theorem levelAsked_operand (word : String) :
    levelAsked (done ++ [.operand word]) =
      { levelAsked done with operands := operandsOf done ++ [word] } := by
  rw [levelAsked_append_singleton]
  simp [levelAsked, Level.turn, Item.operand?, Item.volumes, Item.color?, Item.format?]

theorem levelAsked_trace :
    levelAsked (done ++ [.trace]) = { levelAsked done with trace := true } := by
  rw [levelAsked_append_singleton]
  simp [levelAsked, Level.turn, Item.operand?, Item.volumes, Item.color?, Item.format?]

/-- An item that changes the volume asks for nothing else. -/
theorem levelAsked_volumes {item : Item} (changes : item.volumes ≠ []) :
    levelAsked (done ++ [item]) = (levelAsked done).turn item.volumes := by
  rw [levelAsked_append_singleton]
  cases item with
  | long volume =>
      simp [levelAsked, Level.turn, Item.operand?, Item.color?, Item.format?]
  | letters first others =>
      simp [levelAsked, Level.turn, Item.operand?, Item.color?, Item.format?]
  | operand | trace | option => exact absurd rfl changes

theorem levelAsked_option {choice : Choice} (attached : Bool)
    (fresh : (levelAsked done).hasChosen choice = false) :
    levelAsked (done ++ [.option choice attached]) = (levelAsked done).choose choice := by
  rw [levelAsked_append_singleton]
  cases choice with
  | color choice =>
      have none : colorsOf done = [] := by simpa [Level.hasChosen, levelAsked] using fresh
      simp [levelAsked, Level.turn, Level.choose, Item.operand?, Item.volumes, Item.color?,
        Item.format?, none]
  | format format =>
      have none : formatsOf done = [] := by simpa [Level.hasChosen, levelAsked] using fresh
      simp [levelAsked, Level.turn, Level.choose, Item.operand?, Item.volumes, Item.color?,
        Item.format?, none]

end append

namespace Admissible

variable {done : List Item}

/-- What can stand in one row can do so without its last items. -/
theorem of_append {rest : List Item} (admissible : Admissible (done ++ rest)) :
    Admissible done where
  operands word member :=
    admissible.operands word (((List.sublist_append_left done rest).filterMap _).mem member)
  trace := Nat.le_trans ((List.sublist_append_left done rest).count_le _) admissible.trace
  quiet := by
    have whole := admissible.quiet
    rw [volumesOf, List.flatMap_append, List.count_append] at whole
    exact Nat.le_trans (Nat.le_add_right _ _) whole
  colors := Nat.le_trans ((List.sublist_append_left done rest).filterMap _).length_le
    admissible.colors
  formats := Nat.le_trans ((List.sublist_append_left done rest).filterMap _).length_le
    admissible.formats

theorem operand {word : String} (admissible : Admissible (done ++ [.operand word])) :
    IsOperand word :=
  admissible.operands word (by simp [operandsOf, Item.operand?])

theorem trace_fresh (admissible : Admissible (done ++ [.trace])) :
    (levelAsked done).trace = false := by
  have once := admissible.trace
  rw [List.count_append, List.count_singleton_self] at once
  have absent : Item.trace ∉ done := List.count_eq_zero.mp (by omega)
  simpa [levelAsked] using absent

theorem quiet_once {item : Item} (admissible : Admissible (done ++ [item])) :
    item.volumes.count .quiet ≤ if (levelAsked done).quiet then 0 else 1 := by
  have once := admissible.quiet
  rw [volumesOf_append_singleton, List.count_append] at once
  split
  · rename_i quiet
    have raised : 0 < (volumesOf done).count .quiet := by
      simpa [levelAsked, List.count_pos_iff] using quiet
    omega
  · omega

theorem option_fresh {choice : Choice} {attached : Bool}
    (admissible : Admissible (done ++ [.option choice attached])) :
    (levelAsked done).hasChosen choice = false := by
  cases choice with
  | color choice =>
      have once := admissible.colors
      rw [colorsOf, filterMap_append_singleton] at once
      simpa [Item.color?, Level.hasChosen, levelAsked, colorsOf] using once
  | format format =>
      have once := admissible.formats
      rw [formatsOf, filterMap_append_singleton] at once
      simpa [Item.format?, Level.hasChosen, levelAsked, formatsOf] using once

end Admissible

/-! ## Levels that have taken items -/

/-- A level on which no option waits for its value, and which settles to the level that a row
of items asks for. -/
structure Level.Took (level : Level) (items : List Item) : Prop where
  settle : level.settle = .ok (levelAsked items)
  ready : level.awaitsValue = false

namespace Level.Took

/-- The level that a row of items asks for has taken it. -/
theorem asked (items : List Item) : Took (levelAsked items) items := ⟨rfl, rfl⟩

variable {level : Level} {done : List Item} (took : Took level done)
include took

/-- **One more item is taken.** -/
theorem step {item : Item} (admissible : Admissible (done ++ [item])) :
    ∃ next, Took next (done ++ [item]) ∧
      ∀ rest, level.takeAll .press (item.arguments ++ rest) = next.takeAll .press rest := by
  have closed : (levelAsked done).pending = none := rfl
  cases item with
  | operand word =>
      refine ⟨levelAsked (done ++ [.operand word]), asked _, fun rest => ?_⟩
      rw [levelAsked_operand]
      exact takeAll_operand (Shape.of_isOperand admissible.operand) nofun rfl took.ready
        (takeOperand_press took.settle word) rest
  | trace =>
      have raised : (levelAsked done).raise (some .press) .trace = _ :=
        raise_trace closed admissible.trace_fresh
      rw [← raise_of_settle took.settle closed, ← levelAsked_trace] at raised
      exact ⟨_, asked _, takeAll_taken (Shape.of_flag .trace) nofun (takeOption?_flag rfl raised)⟩
  | long volume =>
      have available : Flag.ofWord? (some .press) volume.flag.word = some volume.flag := by
        cases volume <;> decide
      have turned : levelAsked (done ++ [.long volume]) = (levelAsked done).turn [volume] :=
        levelAsked_volumes done (List.cons_ne_nil volume [])
      have raised := raise_volume closed admissible.quiet_once (some .press)
      rw [← raise_of_settle took.settle closed, ← turned] at raised
      exact ⟨_, asked _,
        takeAll_taken (Shape.of_flag volume.flag) nofun (takeOption?_flag available raised)⟩
  | letters first others =>
      have turned : levelAsked (done ++ [.letters first others])
          = (levelAsked done).turn (first :: others) :=
        levelAsked_volumes done (List.cons_ne_nil first others)
      have raised := raiseLetters_volumes closed admissible.quiet_once
      rw [Item.volumes, List.map_cons, ← raiseLetters_of_settle took.settle closed, ← turned]
        at raised
      exact ⟨_, asked _,
        takeAll_taken (Shape.of_letters first others) nofun (takeOption?_letters rfl raised)⟩
  | option choice attached =>
      have noFlag : Flag.ofWord? (some .press) choice.option.word = none := by
        cases choice <;> rfl
      have assigned :
          (levelAsked done).assign choice.option choice.value
            = .ok (levelAsked (done ++ [.option choice attached])) := by
        rw [levelAsked_option done attached admissible.option_fresh]
        exact assign_eq_ok_iff.mpr
          ⟨choice, Choice.ofValue?_eq_some_iff.mpr ⟨rfl, rfl⟩, admissible.option_fresh, rfl⟩
      cases attached with
      | true =>
          rw [← openOption_attached closed, ← openOption_of_settle took.settle closed] at assigned
          exact ⟨_, asked _,
            takeAll_taken (Shape.of_attached choice) nofun (takeOption?_option noFlag assigned)⟩
      | false =>
          -- The option is open until an argument after its value closes it.
          let waiting : Level :=
            { levelAsked done with pending := some { option := choice.option } }
          have opened : level.openOption choice.option none = .ok waiting := by
            rw [openOption_of_settle took.settle closed]
            exact openOption_alone closed choice.option
          refine ⟨waiting.takeValue choice.value, ⟨assigned, rfl⟩, fun rest => ?_⟩
          calc level.takeAll .press (optionName choice.option.word :: choice.value :: rest)
              = waiting.takeAll .press (choice.value :: rest) :=
                takeAll_taken (Shape.of_option choice.option) nofun
                  (takeOption?_option noFlag opened) _
            _ = (waiting.takeValue choice.value).takeAll .press rest :=
                takeAll_value (Shape.of_value choice) nofun rfl rfl rest

/-- **A row of items is taken whole.** -/
theorem takeAll {items : List Item} (admissible : Admissible (done ++ items)) :
    level.takeAll .press (items.flatMap Item.arguments) = .ok (levelAsked (done ++ items)) := by
  induction items generalizing level done with
  | nil =>
      rw [List.append_nil]
      exact took.settle
  | cons item rest ih =>
      rw [List.append_cons] at admissible
      obtain ⟨next, nextTook, goesOn⟩ := took.step admissible.of_append
      rw [List.flatMap_cons, goesOn, List.append_cons]
      exact ih nextTook admissible

end Level.Took

end CommandLine
end PocketCalculator
