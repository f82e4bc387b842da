import Mathlib.Data.List.Find
import Mathlib.Data.List.Pairwise
import PocketCalculator.Calculator
import PocketCalculator.Proofs.Search

/-!
# Three ways to press a button

A button is pressed by its id, by what a person calls it, or by a key of the keyboard.  Up
to the case of letters the labels and the ids of the buttons are all different
(`nodup_callNames`), so a name calls at most one button (`eq_of_isCalled`) and the order of
the buttons does not matter.

**The three ways agree** (`inputs_agree`): an id is also a name of its button, a key of the
keyboard that is also a name sends the message of its button, and every message of the
keyboard is that of a button.  So whatever is given to a calculator, it does what clicks on
buttons do, one for each input that it takes (`Calculator.exists_clicks`).
-/

set_option autoImplicit false

namespace PocketCalculator

/-! ## Names of buttons -/

/-- The characters of a text without regard to the case of ASCII letters. -/
def Text.folded (text : String) : List Char := text.toList.map Char.toLower

theorem Text.sameLetters_iff (left right : String) :
    sameLetters left right = true ↔ folded left = folded right := by
  rw [sameLetters, beq_iff_eq]
  rfl

namespace Keypad

/-- What a button is called, without regard to case. -/
def callNames (button : Button) : List (List Char) :=
  [Text.folded button.label, Text.folded button.id]

/-- A button that is called by a name has it, without regard to case. -/
theorem mem_callNames_of_isCalled {name : String} {button : Button}
    (called : isCalled name button = true) : Text.folded name ∈ callNames button := by
  rw [isCalled, Bool.or_eq_true, Text.sameLetters_iff, beq_iff_eq] at called
  rw [callNames, List.mem_cons, List.mem_singleton]
  rcases called with byLabel | byId
  · exact .inl byLabel.symm
  · exact .inr (byId ▸ rfl)

/-- **No two of the labels and ids are the same up to the case of letters.** -/
theorem nodup_callNames : (buttons.flatMap callNames).Nodup := by
  decide +kernel

/-- **At most one button is called by a name.** -/
theorem eq_of_isCalled {name : String} {first second : Button} (isFirst : first ∈ buttons)
    (isSecond : second ∈ buttons) (firstCalled : isCalled name first = true)
    (secondCalled : isCalled name second = true) : first = second := by
  by_contra different
  have apart := (List.nodup_flatMap.mp nodup_callNames).2
  have symmetric : Std.Symm (Function.onFun List.Disjoint callNames) :=
    ⟨fun _ _ => List.disjoint_symm⟩
  have disjoint := apart.forall isFirst isSecond different
  exact disjoint (mem_callNames_of_isCalled firstCalled) (mem_callNames_of_isCalled secondCalled)

/-- The button that is called by a name is found. -/
theorem find?_isCalled {name : String} {button : Button} (isButton : button ∈ buttons)
    (called : isCalled name button = true) : buttons.find? (isCalled name) = some button := by
  refine find?_of_only isButton called ?_
  intro found isFound foundCalled
  exact eq_of_isCalled isFound isButton foundCalled called

/-! ## Buttons by their ids -/

theorem isCalled_id (button : Button) : isCalled button.id button = true := by
  rw [isCalled, beq_self_eq_true, Bool.or_true]

theorem id_of_findById? {id : String} {button : Button} (found : findById? id = some button) :
    button ∈ buttons ∧ button.id = id := by
  have sameId := List.find?_some found
  exact ⟨List.mem_of_find?_eq_some found, beq_iff_eq.mp sameId⟩

/-- A button is found by its id. -/
theorem findById?_id {button : Button} (isButton : button ∈ buttons) :
    findById? button.id = some button := by
  refine find?_of_only isButton (beq_self_eq_true _) ?_
  intro found isFound sameId
  have called : isCalled button.id found = true := by
    rw [← beq_iff_eq.mp sameId]
    exact isCalled_id found
  exact eq_of_isCalled isFound isButton called (isCalled_id button)

/-- A click on a button sends its message. -/
theorem click?_id {button : Button} (isButton : button ∈ buttons) :
    click? button.id = some button.message := by
  rw [click?, findById?_id isButton, Option.map_some]

/-- Ids have no blanks at their ends. -/
theorem trim_id : ∀ button ∈ buttons, Text.trim button.id = button.id := by
  decide +kernel

/-- **What has an id has it as a name.** -/
theorem findByLabel?_of_findById? {id : String} {button : Button}
    (found : findById? id = some button) : findByLabel? id = some button := by
  obtain ⟨isButton, rfl⟩ := id_of_findById? found
  rw [findByLabel?, trim_id button isButton, findByName?,
    find?_isCalled isButton (isCalled_id button)]

/-- What is found by a name is a button. -/
theorem mem_buttons_of_findByLabel? {name : String} {button : Button}
    (found : findByLabel? name = some button) : button ∈ buttons := by
  rw [findByLabel?, findByName?] at found
  split at found
  · rename_i called search
    rw [← Option.some.inj found]
    exact List.mem_of_find?_eq_some search
  · obtain ⟨entry, -, search⟩ := Option.bind_eq_some_iff.mp found
    exact List.mem_of_find?_eq_some search

end Keypad

/-! ## Keys of the keyboard -/

namespace Keyboard

/-- All keys of the keyboard with what they send. -/
def keys : List (String × Message) := namedKeys ++ digitKeys

theorem mem_keys_of_message? {key : String} {message : Message}
    (sends : message? key = some message) : (key, message) ∈ keys := by
  obtain ⟨entry, search, rfl⟩ := Option.map_eq_some_iff.mp sends
  have sameKey := List.find?_some search
  rw [← beq_iff_eq.mp sameKey]
  exact List.mem_of_find?_eq_some search

/-- Every key of the keyboard sends the message of a button, and of the button of that name
if there is one. -/
theorem keys_agree : ∀ entry ∈ keys,
    (∃ button ∈ Keypad.buttons, button.message = entry.2) ∧
      ∀ button, Keypad.findByLabel? entry.1 = some button → button.message = entry.2 := by
  have byName : ∀ entry ∈ keys, (∃ button ∈ Keypad.buttons, button.message = entry.2) ∧
      ((Keypad.findByLabel? entry.1).all fun button => button.message == entry.2) = true := by
    decide +kernel
  intro entry member
  obtain ⟨hasButton, agrees⟩ := byName entry member
  refine ⟨hasButton, fun button found => ?_⟩
  rw [found, Option.all_some, beq_iff_eq] at agrees
  exact agrees

end Keyboard

/-! ## Inputs to a calculator -/

/-- Something that is given to a calculator: the id of a button, what a person calls a
button, or a key of the keyboard. -/
inductive Input where
  | button (id : String)
  | label (name : String)
  | key (name : String)
deriving DecidableEq, Repr

/-- The message that an input stands for, if it stands for one. -/
def Input.message? : Input → Option Message
  | button id => Keypad.click? id
  | label name => (Keypad.findByLabel? name).map Button.message
  | key name => Keyboard.message? name

/-- **Every message that an input stands for is that of a button.** -/
theorem Input.exists_button {input : Input} {message : Message}
    (stands : input.message? = some message) :
    ∃ button ∈ Keypad.buttons, button.message = message := by
  cases input with
  | button id =>
      rw [message?, Keypad.click?] at stands
      obtain ⟨button, found, rfl⟩ := Option.map_eq_some_iff.mp stands
      exact ⟨button, (Keypad.id_of_findById? found).1, rfl⟩
  | label name =>
      rw [message?] at stands
      obtain ⟨button, found, rfl⟩ := Option.map_eq_some_iff.mp stands
      exact ⟨button, Keypad.mem_buttons_of_findByLabel? found, rfl⟩
  | key name => exact (Keyboard.keys_agree _ (Keyboard.mem_keys_of_message? stands)).1

namespace Calculator

/-- Gives an input to a calculator, which says whether it takes it. -/
def enter (calculator : Calculator) : Input → Calculator × Bool
  | .button id => calculator.pressButton id
  | .label name => calculator.pressLabel name
  | .key name => calculator.pressKey name

theorem enter_eq (calculator : Calculator) (input : Input) :
    calculator.enter input = calculator.receive input.message? := by
  cases input <;> rfl

/-- Gives a row of inputs to a calculator: what becomes of it, and which it takes. -/
def enterAll (calculator : Calculator) : List Input → Calculator × List Bool
  | [] => (calculator, [])
  | input :: rest =>
      let (next, taken) := calculator.enter input
      let (final, later) := next.enterAll rest
      (final, taken :: later)

/-- The calculator after clicks on the buttons with the given ids. -/
def clickAll (calculator : Calculator) (ids : List String) : Calculator :=
  ids.foldl (fun current id => (current.pressButton id).1) calculator

theorem enterAll_cons (calculator : Calculator) (input : Input) (rest : List Input) :
    calculator.enterAll (input :: rest) =
      (((calculator.enter input).1.enterAll rest).1,
        (calculator.enter input).2 :: ((calculator.enter input).1.enterAll rest).2) := rfl

theorem clickAll_cons (calculator : Calculator) (id : String) (rest : List String) :
    calculator.clickAll (id :: rest) = (calculator.pressButton id).1.clickAll rest := rfl

/-- An input is a click on a button, or it is refused and changes nothing. -/
theorem enter_cases (calculator : Calculator) (input : Input) :
    (∃ button ∈ Keypad.buttons, calculator.enter input = calculator.pressButton button.id ∧
        (calculator.enter input).2 = true) ∨
      calculator.enter input = (calculator, false) := by
  rw [enter_eq]
  cases stands : input.message? with
  | none => exact .inr rfl
  | some message =>
      obtain ⟨button, isButton, rfl⟩ := Input.exists_button stands
      refine .inl ⟨button, isButton, ?_, rfl⟩
      rw [pressButton, Keypad.click?_id isButton]

/-- An input that is refused changes nothing. -/
theorem enter_refused {calculator : Calculator} {input : Input}
    (refused : (calculator.enter input).2 = false) : (calculator.enter input).1 = calculator := by
  rw [enter_eq] at refused ⊢
  exact receive_refused (Prod.ext rfl refused)

/-- **Whatever is given to a calculator does what clicks on buttons do**, one for each input
that it takes. -/
theorem exists_clicks (calculator : Calculator) (inputs : List Input) :
    ∃ ids : List String, (∀ id ∈ ids, ∃ button ∈ Keypad.buttons, button.id = id) ∧
      ids.length = (calculator.enterAll inputs).2.count true ∧
      (calculator.enterAll inputs).1 = calculator.clickAll ids := by
  induction inputs generalizing calculator with
  | nil => exact ⟨[], nofun, rfl, rfl⟩
  | cons input rest ih =>
      rw [enterAll_cons]
      -- An input that is taken becomes a click; after one that is refused the rest is the whole.
      rcases calculator.enter_cases input with ⟨button, isButton, same, taken⟩ | refused
      · obtain ⟨ids, areIds, count, final⟩ := ih (calculator.enter input).1
        refine ⟨button.id :: ids, ?_, ?_, ?_⟩
        · exact List.forall_mem_cons.mpr ⟨⟨button, isButton, rfl⟩, areIds⟩
        · rw [taken, List.count_cons_self, List.length_cons, count]
        · rw [final, same, clickAll_cons]
      · obtain ⟨ids, areIds, count, final⟩ := ih calculator
        refine ⟨ids, areIds, ?_, ?_⟩
        · rw [refused, List.count_cons_of_ne Bool.false_ne_true, count]
        · rw [refused, final]

end Calculator

/-! ## The three ways agree -/

/-- **The three ways to press a button agree.** What has an id has it as a name; a text that
is both a key of the keyboard and a name stands for one message; the keyboard sends messages
of buttons only; and a name without the blanks at its ends calls at most one button, so that
the order in which the buttons are searched does not matter.  Hence a new calculator that is
given any inputs ends as after clicks on buttons, one for each input that it took, and an
input that it refused changed nothing. -/
theorem inputs_agree (text : String) (inputs : List Input) :
    (∀ button, Keypad.findById? text = some button → Keypad.findByLabel? text = some button) ∧
      (∀ message button, Keyboard.message? text = some message →
        Keypad.findByLabel? text = some button → button.message = message) ∧
      (∀ message, Keyboard.message? text = some message →
        ∃ button ∈ Keypad.buttons, button.message = message) ∧
      (∀ first ∈ Keypad.buttons, ∀ second ∈ Keypad.buttons,
        Keypad.isCalled (Text.trim text) first = true →
          Keypad.isCalled (Text.trim text) second = true → first = second) ∧
      (∀ order : List Button, order.Perm Keypad.buttons →
        order.find? (Keypad.isCalled (Text.trim text)) =
          Keypad.buttons.find? (Keypad.isCalled (Text.trim text))) ∧
      (∃ ids : List String, (∀ id ∈ ids, ∃ button ∈ Keypad.buttons, button.id = id) ∧
        ids.length = (Calculator.new.enterAll inputs).2.count true ∧
        (Calculator.new.enterAll inputs).1.state = (Calculator.new.clickAll ids).state) ∧
      (∀ before input after, inputs = before ++ input :: after →
        let calculator := (Calculator.new.enterAll before).1
        (calculator.enter input).2 = false →
          (calculator.enter input).1.state = calculator.state) := by
  have unique : ∀ first ∈ Keypad.buttons, ∀ second ∈ Keypad.buttons,
      Keypad.isCalled (Text.trim text) first = true →
        Keypad.isCalled (Text.trim text) second = true → first = second :=
    fun first isFirst second isSecond => Keypad.eq_of_isCalled isFirst isSecond
  refine ⟨?_, ?_, ?_, unique, ?_, ?_, ?_⟩
  · intro button
    exact Keypad.findByLabel?_of_findById?
  · intro message button sends found
    exact (Keyboard.keys_agree _ (Keyboard.mem_keys_of_message? sends)).2 button found
  · intro message sends
    exact (Keyboard.keys_agree _ (Keyboard.mem_keys_of_message? sends)).1
  · intro order same
    refine List.find?_eq_find?_of_perm same ?_
    rintro first ⟨isFirst, firstCalled⟩ second ⟨isSecond, secondCalled⟩
    exact unique first (same.mem_iff.mp isFirst) second (same.mem_iff.mp isSecond) firstCalled
      secondCalled
  · obtain ⟨ids, areIds, count, final⟩ := Calculator.new.exists_clicks inputs
    exact ⟨ids, areIds, count, congrArg Calculator.state final⟩
  · intro before input after _ calculator refused
    exact congrArg Calculator.state (Calculator.enter_refused refused)

end PocketCalculator
