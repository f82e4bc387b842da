import PocketCalculator.Display.Key
import PocketCalculator.Display.ResultText
import PocketCalculator.Expression.Evaluation

/-!
# The display

The display holds a text and whether that text is a result.  Typing adds to the
text; a digit after a result starts over, and an error takes no other key.
Evaluating puts the result, or the word for an error, in place of the text.

The phase of the display is read off these two: it is empty, an entry is being
typed, a result is shown, or an error is shown.
-/

set_option autoImplicit false

namespace PocketCalculator

/-- What the display shows after a calculation without a value. -/
def errorText : String := "Error"

/-- Where the display is between two entries. -/
inductive Phase where
  | empty
  | entering
  | resultShown
  | errorShown
deriving DecidableEq, Repr

/-- The word for a phase that a page can style by. -/
def Phase.word : Phase → String
  | empty => "empty"
  | entering => "entering"
  | resultShown => "result"
  | errorShown => "error"

/-- The text on the display and whether it is the outcome of an evaluation. -/
structure DisplayState where
  /-- The text that is shown. -/
  text : String := ""
  /-- Whether the text is the outcome of an evaluation. -/
  isResult : Bool := false
deriving DecidableEq, Repr, Inhabited

namespace DisplayState

/-- The display of a new calculator. -/
def empty : DisplayState := {}

/-- The phase of the display. -/
def phase (state : DisplayState) : Phase :=
  if state.isResult then
    if state.text = errorText then .errorShown else .resultShown
  else if state.text = "" then .empty
  else .entering

/-- Types a key. -/
def appendValue (state : DisplayState) (key : Key) : DisplayState :=
  if state.isResult && key.isNumeric then { text := key.text, isResult := false }
  else if !key.isNumeric && state.text == errorText then state
  else { text := state.text ++ key.text, isResult := false }

/-- The text that stands for an outcome. -/
def outcomeText : Outcome → String
  | .ok value => resultText value
  | .error _ => errorText

/-- Evaluates the text and shows the outcome. -/
def calculate (state : DisplayState) : DisplayState × Outcome :=
  let outcome := Evaluation.evaluate state.text
  ({ text := outcomeText outcome, isResult := true }, outcome)

/-- Empties the display. -/
def clearAll (_ : DisplayState) : DisplayState := empty

/-- Takes back one character of an entry; a result goes as a whole. -/
def deleteLast (state : DisplayState) : DisplayState :=
  if state.isResult then state.clearAll
  else { state with text := String.ofList state.text.toList.dropLast }

/-- The effect of a message, and the outcome if the message evaluates. -/
def update (state : DisplayState) : Message → DisplayState × Option Outcome
  | .press key => (state.appendValue key, none)
  | .equals =>
      let (next, outcome) := state.calculate
      (next, some outcome)
  | .clear => (state.clearAll, none)
  | .delete => (state.deleteLast, none)

/-- The display after a row of messages. -/
def run (state : DisplayState) (messages : List Message) : DisplayState :=
  messages.foldl (fun current message => (current.update message).1) state

@[simp] theorem run_nil (state : DisplayState) : state.run [] = state := rfl

@[simp] theorem run_cons (state : DisplayState) (message : Message) (rest : List Message) :
    state.run (message :: rest) = (state.update message).1.run rest := rfl

theorem run_append (state : DisplayState) (first second : List Message) :
    state.run (first ++ second) = (state.run first).run second := by
  simp [run, List.foldl_append]

end DisplayState

end PocketCalculator
