import Mathlib.Algebra.GroupWithZero.Nat
import PocketCalculator.Proofs.Display.Typing

/-!
# Taking back what was typed

Delete takes one character off an entry, whatever was typed with it: a key that types more
than one character is taken back in parts, and between them a half of it is on the display.
Only the characters count, so **a row of deletions takes the last characters off an entry**
(`run_deletes`), and **as many deletions as characters were typed take back all keys**
(`run_presses_deletes`).
-/

set_option autoImplicit false

namespace PocketCalculator

/-- A row of keys types as many characters as its keys do. -/
theorem Key.length_typedText (keys : List Key) :
    (typedText keys).length = (keys.map fun key => key.text.length).sum := by
  induction keys with
  | nil => rfl
  | cons key rest ih => rw [typedText, String.length_append, ih, List.map_cons, List.sum_cons]

namespace DisplayState

/-- **A row of deletions takes the last characters off an entry.** -/
theorem run_deletes {state : DisplayState} (entry : state.isResult = false) (count : Nat) :
    state.run (List.replicate count .delete) =
      { text := String.ofList (state.text.toList.take (state.text.length - count)),
        isResult := false } := by
  induction count generalizing state with
  | zero =>
      rw [List.replicate_zero, run_nil, Nat.sub_zero, ← String.length_toList, List.take_length,
        String.ofList_toList, ← entry]
  | succ count ih =>
      have deleted : (state.update .delete).1
          = { text := String.ofList state.text.toList.dropLast, isResult := false } :=
        deleteLast_of_entry entry
      have shorter : min (state.text.length - 1 - count) (state.text.length - 1)
          = state.text.length - (count + 1) := by omega
      rw [List.replicate_succ, run_cons, deleted, ih rfl, String.toList_ofList,
        String.length_ofList, List.length_dropLast, String.length_toList, List.dropLast_eq_take,
        List.take_take, String.length_toList, shorter]

/-- **Deletions take back what was typed.** As many of them as the keys typed characters leave
an entry, with its text and its flag, as it was before. -/
theorem run_presses_deletes (state : DisplayState) (entry : state.isResult = false)
    (noError : state.text ≠ errorText) (keys : List Key) :
    state.run (keys.map Message.press ++
        List.replicate (keys.map fun key => key.text.length).sum .delete) = state := by
  have typed := run_presses entry noError keys
  have deleted := run_deletes (congrArg isResult typed) (keys.map fun key => key.text.length).sum
  rw [run_append, deleted, typed, ← Key.length_typedText]
  dsimp only
  rw [String.length_append, Nat.add_sub_cancel, String.toList_append, ← String.length_toList,
    List.take_left, String.ofList_toList, ← entry]

/-- An entry that lacks one letter of the word for an error. -/
def almostError : DisplayState := { text := "😀Erro", isResult := false }

/-- Seven deletions take back three keys, and two of them split the letters of the remainder. -/
theorem run_presses_deletes_remainder :
    (almostError.isResult = false ∧ almostError.text ≠ errorText) ∧
      almostError.run
        ([.press (.digit 255), .press (.operator .modulo), .press .percent] ++
          List.replicate 7 .delete) = almostError := by
  have noError : almostError.text ≠ errorText := by decide
  have count : ([.digit 255, .operator .modulo, .percent].map fun key : Key =>
      key.text.length).sum = 7 := by decide +kernel
  have back := run_presses_deletes almostError rfl noError [.digit 255, .operator .modulo, .percent]
  rw [count] at back
  exact ⟨⟨rfl, noError⟩, back⟩

end DisplayState
end PocketCalculator
