import Mathlib.Data.List.Nodup

/-!
# Searches with one answer

A search finds what alone fits it, wherever it stands (`find?_of_only`).  So a thing is found
by its name in any row whose names are all different (`find?_name`).  A search through a
range of numbers ends no later than where something is known to be found
(`exists_of_findSome?_range`).
-/

set_option autoImplicit false

namespace PocketCalculator

variable {α : Type} {row : List α} {x : α}

/-- What alone fits a search is found. -/
theorem find?_of_only {fits : α → Bool} (member : x ∈ row) (fit : fits x = true)
    (only : ∀ y ∈ row, fits y = true → y = x) : row.find? fits = some x := by
  cases search : row.find? fits with
  | none => exact absurd fit (List.find?_eq_none.mp search x member)
  | some found =>
      rw [only found (List.mem_of_find?_eq_some search) (List.find?_some search)]

/-- A thing is found by its name if all names are different. -/
theorem find?_name {name : α → String} (distinct : (row.map name).Nodup) (member : x ∈ row) :
    row.find? (fun y => name y == name x) = some x := by
  refine find?_of_only member (beq_self_eq_true _) ?_
  intro y isMember sameName
  exact List.inj_on_of_nodup_map distinct isMember member (beq_iff_eq.mp sameName)

/-- A search over a range ends at the latest where something is known to be found. -/
theorem exists_of_findSome?_range {find : Nat → Option α} {count last : Nat} {a : α}
    (inside : last < count) (known : find last ≠ none)
    (found : (List.range count).findSome? find = some a) :
    ∃ index, index ≤ last ∧ find index = some a := by
  obtain ⟨before, index, after, split, here, nothing⟩ := List.findSome?_eq_some_iff.mp found
  refine ⟨index, ?_, here⟩
  have sorted : (before ++ index :: after).Pairwise (· < ·) := by
    rw [← split]
    exact List.pairwise_lt_range
  have member : last ∈ before ++ index :: after := by
    rw [← split]
    exact List.mem_range.mpr inside
  rcases List.mem_append.mp member with earlier | later
  · exact absurd (nothing last earlier) known
  · rcases List.mem_cons.mp later with same | beyond
    · exact Nat.le_of_eq same.symm
    · have order := (List.pairwise_append.mp sorted).2.1
      exact Nat.le_of_lt (List.rel_of_pairwise_cons order beyond)

end PocketCalculator
