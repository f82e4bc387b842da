import PocketCalculator.Json.Printer
import PocketCalculator.Json.Reader
import Mathlib.Tactic.SplitIfs

/-!
# Strings in JSON

Every character of a string is written so that it is read back as one unit: as itself or,
if it is a control character without a short escape, as the number of its code unit
(`readUnit`).  **A written string is read back** (`readString?_written`), whatever text
follows it.  A written string holds no line break (`newline_notMem_renderString`).
-/

set_option autoImplicit false

namespace PocketCalculator
namespace Json

/-! ## Characters -/

/-- The control characters that have a short escape. -/
def shortControls : List Char := ['\x08', '\x0c', '\n', '\r', '\t']

/-- The unit that a written character is read back as. -/
def readUnit (c : Char) : StringUnit :=
  if 32 ≤ c.toNat ∨ c ∈ shortControls then .char c else .unit c.toNat

theorem hexValue?_hexChar : ∀ digit < 16, hexValue? (hexChar digit) = some digit := by
  decide

/-- A control character is read back from its number. -/
theorem codeUnit?_control {code : Nat} (control : code < 32) :
    codeUnit? '0' '0' (hexChar (code / 16)) (hexChar (code % 16)) = some code := by
  have zero : hexValue? '0' = some 0 := by decide
  rw [codeUnit?, zero, hexValue?_hexChar _ (by omega), hexValue?_hexChar _ (by omega)]
  exact congrArg some (by omega)

/-- The units of a string with one more in front. -/
def withUnit (unit : StringUnit) (units : List StringUnit × List Char) :
    List StringUnit × List Char := (unit :: units.1, units.2)

theorem stringUnits?_shortEscape {escaped c : Char} (short : shortEscape? escaped = some c)
    (rest : List Char) :
    stringUnits? ('\\' :: escaped :: rest) = (stringUnits? rest).map (withUnit (.char c)) := by
  have notCode : escaped ≠ 'u' := by
    rintro rfl
    exact nomatch short
  rw [stringUnits?, short]
  · exact Option.map_eq_bind.symm
  · intro _ _ _ _ _ code _
    exact notCode code

theorem stringUnits?_control {code : Nat} (control : code < 32) (rest : List Char) :
    stringUnits? (['\\', 'u', '0', '0', hexChar (code / 16), hexChar (code % 16)] ++ rest) =
      (stringUnits? rest).map (withUnit (.unit code)) := by
  show stringUnits?
    ('\\' :: 'u' :: '0' :: '0' :: hexChar (code / 16) :: hexChar (code % 16) :: rest) = _
  rw [stringUnits?, codeUnit?_control control]
  exact Option.map_eq_bind.symm

theorem stringUnits?_plain {c : Char} (noQuote : c ≠ '"') (noEscape : c ≠ '\\')
    (printed : 32 ≤ c.toNat) (rest : List Char) :
    stringUnits? (c :: rest) = (stringUnits? rest).map (withUnit (.char c)) := by
  rw [stringUnits?, if_neg (not_or.mpr ⟨noEscape, Nat.not_lt.mpr printed⟩)]
  · exact Option.map_eq_bind.symm
  · exact noQuote
  · intro _ _ _ _ _ escape _
    exact noEscape escape
  · intro _ _ escape _
    exact noEscape escape

/-- **A written character is read as one unit.** -/
theorem stringUnits?_escape (c : Char) (rest : List Char) :
    stringUnits? (escape c ++ rest) = (stringUnits? rest).map (withUnit (readUnit c)) := by
  rw [escape]
  by_cases quote : c = '"'
  · subst quote
    exact stringUnits?_shortEscape rfl rest
  by_cases backslash : c = '\\'
  · subst backslash
    exact stringUnits?_shortEscape rfl rest
  by_cases control : c ∈ shortControls
  · simp only [shortControls, List.mem_cons, List.not_mem_nil, or_false] at control
    rcases control with rfl | rfl | rfl | rfl | rfl <;> exact stringUnits?_shortEscape rfl rest
  · have others := control
    simp only [shortControls, List.mem_cons, List.not_mem_nil, or_false, not_or] at others
    obtain ⟨back, feed, line, carriage, tab⟩ := others
    rw [if_neg quote, if_neg backslash, if_neg back, if_neg feed, if_neg line, if_neg carriage,
      if_neg tab, readUnit]
    by_cases low : c.toNat < 32
    · rw [if_pos low, if_neg (not_or.mpr ⟨by omega, control⟩)]
      exact stringUnits?_control low rest
    · rw [if_neg low, if_pos (.inl (by omega))]
      exact stringUnits?_plain quote backslash (by omega) rest

/-! ## Whole strings -/

/-- The units of a written text are those of its characters. -/
theorem stringUnits?_written (text rest : List Char) :
    stringUnits? (text.flatMap escape ++ '"' :: rest) = some (text.map readUnit, rest) := by
  induction text with
  | nil => rfl
  | cons c text ih =>
      rw [List.flatMap_cons, List.append_assoc, stringUnits?_escape, ih]
      rfl

/-- A code unit outside the surrogates is a character, whatever follows it. -/
theorem joinUnits?_unit {code : Nat} (below : code < 0xD800) (units : List StringUnit) :
    joinUnits? (.unit code :: units) = (joinUnits? units).map (Char.ofNat code :: ·) := by
  have noLeading : isLeading code = false := by
    rw [isLeading, decide_eq_false (by omega), Bool.false_and]
  have noTrailing : isTrailing code = false := by
    rw [isTrailing, decide_eq_false (by omega), Bool.false_and]
  -- The reader joins pairs first, so a code unit after this one is a case of its own.
  match units with
  | [] | .char _ :: _ =>
      rw [joinUnits?.eq_4 code _ (by simp), noLeading, noTrailing]
      rfl
  | .unit _ :: _ =>
      rw [joinUnits?, noLeading, noTrailing]
      rfl

/-- The units of a text are joined to it; none of them is half of a surrogate pair. -/
theorem joinUnits?_readUnit (text : List Char) : joinUnits? (text.map readUnit) = some text := by
  induction text with
  | nil => rfl
  | cons c text ih =>
      rw [List.map_cons, readUnit]
      split
      case isTrue => rw [joinUnits?, ih, Option.map_some]
      case isFalse other =>
        have control : c.toNat < 32 := Nat.lt_of_not_le (not_or.mp other).1
        rw [joinUnits?_unit (by omega), ih, Option.map_some, Char.ofNat_toNat]

/-- Half of a surrogate pair is no text. -/
theorem readString?_halfPair (rest : List Char) :
    readString? (halfPair ++ '"' :: rest) = some (none, rest) := by
  have code : codeUnit? 'd' '8' '0' '0' = some 0xD800 := by decide
  have lone : joinUnits? [.unit 0xD800] = none := by decide
  have units : stringUnits? (halfPair ++ '"' :: rest) = some ([.unit 0xD800], rest) := by
    show stringUnits? ('\\' :: 'u' :: 'd' :: '8' :: '0' :: '0' :: '"' :: rest) = _
    rw [stringUnits?, code]
    rfl
  rw [readString?, units, Option.map_some]
  dsimp only
  rw [lone, Option.map_none]

theorem readString?_text (text : String) (rest : List Char) :
    readString? (text.toList.flatMap escape ++ '"' :: rest) = some (some text, rest) := by
  rw [readString?, stringUnits?_written, Option.map_some]
  show some ((joinUnits? (text.toList.map readUnit)).map String.ofList, rest) = _
  rw [joinUnits?_readUnit, Option.map_some, String.ofList_toList]

/-- **A written string is read back** after its opening mark, whatever stands after it. -/
theorem readString?_written (content : Option String) (rest : List Char) :
    ∃ inner, renderString content ++ rest = '"' :: inner ∧
      readString? inner = some (content, rest) := by
  match content with
  | none => exact ⟨halfPair ++ '"' :: rest, rfl, readString?_halfPair rest⟩
  | some text =>
      refine ⟨text.toList.flatMap escape ++ '"' :: rest, ?_, readString?_text text rest⟩
      simp [renderString]

/-! ## Line breaks -/

theorem hexChar_ne_newline : ∀ digit < 16, hexChar digit ≠ '\n' := by
  decide

theorem newline_notMem_escape (c : Char) : '\n' ∉ escape c := by
  rw [escape]
  split_ifs with _ _ _ _ newline _ _ control
  iterate 7 decide
  · have high := hexChar_ne_newline (c.toNat / 16) (by omega)
    have low := hexChar_ne_newline (c.toNat % 16) (by omega)
    simp [high.symm, low.symm]
  · simpa using Ne.symm newline

/-- **A written string holds no line break.** -/
theorem newline_notMem_renderString (content : Option String) :
    '\n' ∉ renderString content := by
  have inner : ∀ text : List Char, '\n' ∉ text.flatMap escape := by
    intro text mem
    obtain ⟨c, -, mem⟩ := List.mem_flatMap.mp mem
    exact newline_notMem_escape c mem
  cases content with
  | none => decide
  | some text => simp [renderString, inner]

end Json
end PocketCalculator
