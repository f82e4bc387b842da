import PocketCalculator.Proofs.Json.Numbers
import PocketCalculator.Proofs.Json.Strings

/-!
# Written JSON is read back

A JSON value is proper if all of its numerals are (`Json.Proper`).  **The text of a proper
value is one document and denotes that value** (`Json.read?_text`), and the text of any value
stands on one line (`Json.newline_notMem_text`).

The reader goes down with a bound on its depth and takes at least one character at every
step, so a bound on the length of what was written is a bound on the depth.  `ReadsBack` says
this of all four parts of the reader together; one step of each carries it from a bound to
the next (`readsBack`).
-/

set_option autoImplicit false

namespace PocketCalculator
namespace Json

/-- A value whose numerals the format allows. -/
inductive Proper : Json → Prop where
  | null : Proper .null
  | bool (value : Bool) : Proper (.bool value)
  | number {numeral : Numeral} (proper : numeral.Proper) : Proper (.number numeral)
  | string (content : Option String) : Proper (.string content)
  | array {elements : List Json} (each : ∀ element ∈ elements, Proper element) :
      Proper (.array elements)
  | object {members : List (Option String × Json)} (each : ∀ member ∈ members, Proper member.2) :
      Proper (.object members)

theorem Proper.ofText (text : String) : Proper (.ofText text) := .string (some text)

theorem Proper.ofNat (n : Nat) : Proper (.ofNat n) := .number (Numeral.proper_ofNat n)

theorem Proper.record {members : List (String × Json)}
    (each : ∀ member ∈ members, Proper member.2) : Proper (.record members) := by
  refine .object fun member mem => ?_
  obtain ⟨named, isMember, rfl⟩ := List.mem_map.mp mem
  exact each named isMember

/-! ## The first character of a value -/

theorem skipBlanks_of_not_blank {c : Char} (printed : isBlank c = false) (rest : List Char) :
    skipBlanks (c :: rest) = c :: rest := by
  rw [skipBlanks, List.dropWhile_cons_of_neg (by simp [printed])]

/-- Whether a character is the first of a numeral. -/
def startsNumeral (c : Char) : Bool := c == '-' || (Digit.ofChar? c).isSome

theorem not_isBlank_of_startsNumeral {c : Char} (starts : startsNumeral c = true) :
    isBlank c = false := by
  cases blank : isBlank c with
  | false => rfl
  | true =>
      simp only [isBlank, Bool.or_eq_true, beq_iff_eq] at blank
      rcases blank with ((rfl | rfl) | rfl) | rfl <;> exact nomatch starts

theorem exists_toChars_cons {numeral : Numeral} (proper : numeral.Proper) :
    ∃ c text, numeral.toChars = c :: text ∧ startsNumeral c = true := by
  have starts : ∀ digit : Digit, startsNumeral digit.toChar = true := by decide
  rw [Numeral.toChars]
  cases numeral.negative with
  | true => exact ⟨'-', _, rfl, rfl⟩
  | false =>
      cases whole : numeral.whole with
      | nil => exact absurd whole proper.nonempty
      | cons digit others => exact ⟨digit.toChar, _, rfl, starts digit⟩

/-- No written value starts with a blank or with the end of an array. -/
theorem exists_render_cons {json : Json} (proper : json.Proper) :
    ∃ c text, json.render = c :: text ∧ isBlank c = false ∧ c ≠ ']' := by
  cases proper with
  | null => exact ⟨'n', _, by rw [render], by decide, by decide⟩
  | bool value =>
      cases value with
      | true => exact ⟨'t', _, by rw [render], by decide, by decide⟩
      | false => exact ⟨'f', _, by rw [render], by decide, by decide⟩
  | @number numeral proper =>
      obtain ⟨c, text, written, starts⟩ := exists_toChars_cons proper
      refine ⟨c, text, by rw [render, written], not_isBlank_of_startsNumeral starts, ?_⟩
      rintro rfl
      exact nomatch starts
  | string content => exact ⟨'"', _, by rw [render]; rfl, by decide, by decide⟩
  | @array elements each =>
      cases elements <;> exact ⟨'[', _, by rw [render], by decide, by decide⟩
  | @object members each =>
      cases members <;> exact ⟨'{', _, by rw [render], by decide, by decide⟩

/-! ## Rules of the reader -/

section rules

variable {depth : Nat} {text rest : List Char}

theorem readValue?_number {c : Char} (starts : startsNumeral c = true) {numeral : Numeral}
    (taken : number? (c :: text) = some (numeral, rest)) :
    readValue? (depth + 1) (c :: text) = some (number numeral, rest) := by
  rw [readValue?, skipBlanks_of_not_blank (not_isBlank_of_startsNumeral starts)]
  split
  case h_7 => rw [taken, Option.map_some]
  all_goals
    rename_i same
    obtain ⟨rfl, -⟩ := List.cons.inj same
    exact nomatch starts

theorem readValue?_string {content : Option String}
    (taken : readString? text = some (content, rest)) :
    readValue? (depth + 1) ('"' :: text) = some (string content, rest) := by
  show (readString? text).map _ = _
  rw [taken, Option.map_some]

theorem readValue?_array {first : Json} {others : List Json} {afterFirst : List Char}
    (opened : skipBlanks text = text) (nonempty : ∀ after, text ≠ ']' :: after)
    (head : readValue? depth text = some (first, afterFirst))
    (tail : readElements? depth afterFirst = some (others, rest)) :
    readValue? (depth + 1) ('[' :: text) = some (array (first :: others), rest) := by
  rw [readValue?.eq_def]
  simp only [skipBlanks_of_not_blank (c := '[') rfl, opened, head, tail, Option.bind_eq_bind,
    Option.bind_some]
  rfl

theorem readElements?_comma {first : Json} {others : List Json} {afterFirst : List Char}
    (head : readValue? depth text = some (first, afterFirst))
    (tail : readElements? depth afterFirst = some (others, rest)) :
    readElements? (depth + 1) (',' :: text) = some (first :: others, rest) := by
  rw [readElements?.eq_def]
  simp only [skipBlanks_of_not_blank (c := ',') rfl, head, tail, Option.bind_eq_bind,
    Option.bind_some]
  rfl

/-- The first member of an object starts with a quotation mark. -/
theorem readValue?_object {first : Option String × Json} {others : List (Option String × Json)}
    {afterFirst : List Char} (head : readMember? depth ('"' :: text) = some (first, afterFirst))
    (tail : readMembers? depth afterFirst = some (others, rest)) :
    readValue? (depth + 1) ('{' :: '"' :: text) = some (object (first :: others), rest) := by
  show ((readMember? depth ('"' :: text)).bind fun first =>
    (readMembers? depth first.2).bind fun others =>
      some (object (first.1 :: others.1), others.2)) = _
  rw [head, Option.bind_some, tail, Option.bind_some]

theorem readMember?_quote {name : Option String} {value : Json} {valueText : List Char}
    (label : readString? text = some (name, ':' :: valueText))
    (taken : readValue? depth valueText = some (value, rest)) :
    readMember? (depth + 1) ('"' :: text) = some ((name, value), rest) := by
  rw [readMember?.eq_def]
  simp only [skipBlanks_of_not_blank (c := '"') rfl, skipBlanks_of_not_blank (c := ':') rfl, label,
    taken, Option.bind_eq_bind, Option.bind_some]
  rfl

theorem readMembers?_comma {first : Option String × Json} {others : List (Option String × Json)}
    {afterFirst : List Char} (head : readMember? depth text = some (first, afterFirst))
    (tail : readMembers? depth afterFirst = some (others, rest)) :
    readMembers? (depth + 1) (',' :: text) = some (first :: others, rest) := by
  rw [readMembers?.eq_def]
  simp only [skipBlanks_of_not_blank (c := ',') rfl, head, tail, Option.bind_eq_bind,
    Option.bind_some]
  rfl

end rules

/-! ## One step down -/

/-- With the given bound on the depth, the reader takes back everything that is written with
at most that many characters. -/
structure ReadsBack (depth : Nat) : Prop where
  value : ∀ {json : Json} {rest : List Char}, json.Proper → endsNumeral rest = true →
    json.render.length ≤ depth → readValue? depth (json.render ++ rest) = some (json, rest)
  elements : ∀ {elements : List Json} (rest : List Char), (∀ element ∈ elements, Proper element) →
    (renderElements elements).length ≤ depth →
    readElements? depth (renderElements elements ++ rest) = some (elements, rest)
  member : ∀ (name : Option String) {json : Json} {rest : List Char}, json.Proper →
    endsNumeral rest = true → (renderString name ++ ':' :: json.render).length ≤ depth →
    readMember? depth (renderString name ++ ':' :: (json.render ++ rest)) =
      some ((name, json), rest)
  members : ∀ {members : List (Option String × Json)} (rest : List Char),
    (∀ member ∈ members, Proper member.2) → (renderMembers members).length ≤ depth →
    readMembers? depth (renderMembers members ++ rest) = some (members, rest)

/-- What follows an element of an array does not continue a numeral. -/
theorem endsNumeral_renderElements (elements : List Json) (rest : List Char) :
    endsNumeral (renderElements elements ++ rest) = true := by
  cases elements <;> rw [renderElements] <;> rfl

/-- What follows a member of an object does not continue a numeral. -/
theorem endsNumeral_renderMembers (members : List (Option String × Json)) (rest : List Char) :
    endsNumeral (renderMembers members ++ rest) = true := by
  match members with
  | [] => rw [renderMembers]; rfl
  | (name, json) :: others => rw [renderMembers]; rfl

namespace ReadsBack

variable {depth : Nat} (back : ReadsBack depth)
include back

theorem array {elements : List Json} (rest : List Char)
    (proper : ∀ element ∈ elements, Proper element)
    (short : (render (.array elements)).length ≤ depth + 1) :
    readValue? (depth + 1) (render (.array elements) ++ rest) = some (.array elements, rest) := by
  match elements with
  | [] => rw [render]; rfl
  | first :: others =>
      rw [render, List.length_cons, List.length_append] at short
      obtain ⟨firstProper, othersProper⟩ := List.forall_mem_cons.mp proper
      obtain ⟨c, text, written, printed, noEnd⟩ := exists_render_cons firstProper
      have head := back.value firstProper (endsNumeral_renderElements others rest) (by omega)
      have tail := back.elements rest othersProper (by omega)
      rw [render, List.cons_append, List.append_assoc]
      refine readValue?_array ?_ ?_ head tail
      · rw [written, List.cons_append, skipBlanks_of_not_blank printed]
      · rw [written]
        exact fun after same => noEnd (List.cons.inj same).1

theorem object {members : List (Option String × Json)} (rest : List Char)
    (proper : ∀ member ∈ members, Proper member.2)
    (short : (render (.object members)).length ≤ depth + 1) :
    readValue? (depth + 1) (render (.object members) ++ rest) = some (.object members, rest) := by
  match members with
  | [] => rw [render]; rfl
  | (name, json) :: others =>
      rw [render, List.length_cons, List.length_append, List.length_cons,
        List.length_append] at short
      obtain ⟨firstProper, othersProper⟩ := List.forall_mem_cons.mp proper
      have bound : (renderString name ++ ':' :: json.render).length ≤ depth := by
        rw [List.length_append, List.length_cons]
        omega
      have head := back.member name firstProper (endsNumeral_renderMembers others rest) bound
      have tail := back.members rest othersProper (by omega)
      obtain ⟨inner, written, -⟩ :=
        readString?_written name (':' :: (json.render ++ (renderMembers others ++ rest)))
      rw [written] at head
      rw [render, List.cons_append, List.append_assoc, List.cons_append, List.append_assoc, written]
      exact readValue?_object head tail

theorem value_succ {json : Json} {rest : List Char} (proper : json.Proper)
    (ends : endsNumeral rest = true) (short : json.render.length ≤ depth + 1) :
    readValue? (depth + 1) (json.render ++ rest) = some (json, rest) := by
  cases proper with
  | null => rw [render]; rfl
  | bool value => cases value <;> (rw [render]; rfl)
  | @number numeral proper =>
      obtain ⟨c, text, written, starts⟩ := exists_toChars_cons proper
      have taken := number?_written proper ends
      rw [written] at taken
      rw [render, written]
      exact readValue?_number starts taken
  | string content =>
      obtain ⟨inner, written, taken⟩ := readString?_written content rest
      rw [render, written]
      exact readValue?_string taken
  | array each => exact back.array rest each short
  | object each => exact back.object rest each short

theorem elements_succ {elements : List Json} (rest : List Char)
    (proper : ∀ element ∈ elements, Proper element)
    (short : (renderElements elements).length ≤ depth + 1) :
    readElements? (depth + 1) (renderElements elements ++ rest) = some (elements, rest) := by
  match elements with
  | [] => rw [renderElements]; rfl
  | first :: others =>
      rw [renderElements, List.length_cons, List.length_append] at short
      obtain ⟨firstProper, othersProper⟩ := List.forall_mem_cons.mp proper
      have head := back.value firstProper (endsNumeral_renderElements others rest) (by omega)
      have tail := back.elements rest othersProper (by omega)
      rw [renderElements, List.cons_append, List.append_assoc]
      exact readElements?_comma head tail

theorem member_succ (name : Option String) {json : Json} {rest : List Char} (proper : json.Proper)
    (ends : endsNumeral rest = true)
    (short : (renderString name ++ ':' :: json.render).length ≤ depth + 1) :
    readMember? (depth + 1) (renderString name ++ ':' :: (json.render ++ rest)) =
      some ((name, json), rest) := by
  rw [List.length_append, List.length_cons] at short
  obtain ⟨inner, written, taken⟩ := readString?_written name (':' :: (json.render ++ rest))
  rw [written]
  exact readMember?_quote taken (back.value proper ends (by omega))

theorem members_succ {members : List (Option String × Json)} (rest : List Char)
    (proper : ∀ member ∈ members, Proper member.2)
    (short : (renderMembers members).length ≤ depth + 1) :
    readMembers? (depth + 1) (renderMembers members ++ rest) = some (members, rest) := by
  match members with
  | [] => rw [renderMembers]; rfl
  | (name, json) :: others =>
      rw [renderMembers, List.length_cons, List.length_append, List.length_cons,
        List.length_append] at short
      obtain ⟨firstProper, othersProper⟩ := List.forall_mem_cons.mp proper
      have bound : (renderString name ++ ':' :: json.render).length ≤ depth := by
        rw [List.length_append, List.length_cons]
        omega
      have head := back.member name firstProper (endsNumeral_renderMembers others rest) bound
      have tail := back.members rest othersProper (by omega)
      rw [renderMembers, List.cons_append, List.append_assoc, List.cons_append, List.append_assoc]
      exact readMembers?_comma head tail

end ReadsBack

/-! ## Whole texts -/

/-- Whatever is written takes a character. -/
theorem readsBack_zero : ReadsBack 0 where
  value {json rest} proper _ short := by
    obtain ⟨c, text, written, -⟩ := exists_render_cons proper
    simp [written] at short
  elements {elements} _ _ short := by
    cases elements <;> simp [renderElements] at short
  member name json rest _ _ short := by
    simp at short
  members {members} _ _ short := by
    match members with
    | [] => simp [renderMembers] at short
    | (name, json) :: others => simp [renderMembers] at short

theorem readsBack (depth : Nat) : ReadsBack depth := by
  induction depth with
  | zero => exact readsBack_zero
  | succ depth back =>
      exact {
        value := back.value_succ
        elements := back.elements_succ
        member := back.member_succ
        members := back.members_succ }

/-- **The text of a proper value denotes it.** -/
theorem read?_text {json : Json} (proper : json.Proper) : read? json.text = some json := by
  have ends : endsNumeral [] = true := rfl
  have taken := (readsBack (json.render.length + 1)).value proper ends (by omega)
  rw [List.append_nil] at taken
  rw [read?, text, String.toList_ofList, readChars?, taken]
  rfl

/-! ## Line breaks -/

mutual

/-- **A written value holds no line break.** -/
theorem newline_notMem_render : ∀ json : Json, '\n' ∉ json.render
  | .null | .bool true | .bool false | .array [] | .object [] => by rw [render]; decide
  | .number numeral => by
      rw [render]
      exact numeral.newline_notMem_toChars
  | .string content => by
      rw [render]
      exact newline_notMem_renderString content
  | .array (first :: others) => by
      have head := newline_notMem_render first
      have tail := newline_notMem_renderElements others
      simp [render, head, tail]
  | .object ((name, json) :: others) => by
      have label := newline_notMem_renderString name
      have head := newline_notMem_render json
      have tail := newline_notMem_renderMembers others
      simp [render, label, head, tail]

theorem newline_notMem_renderElements : ∀ elements : List Json, '\n' ∉ renderElements elements
  | [] => by rw [renderElements]; decide
  | first :: others => by
      have head := newline_notMem_render first
      have tail := newline_notMem_renderElements others
      simp [renderElements, head, tail]

theorem newline_notMem_renderMembers :
    ∀ members : List (Option String × Json), '\n' ∉ renderMembers members
  | [] => by rw [renderMembers]; decide
  | (name, json) :: others => by
      have label := newline_notMem_renderString name
      have head := newline_notMem_render json
      have tail := newline_notMem_renderMembers others
      simp [renderMembers, label, head, tail]

end

theorem newline_notMem_text (json : Json) : '\n' ∉ json.text.toList := by
  rw [text, String.toList_ofList]
  exact newline_notMem_render json

end Json
end PocketCalculator
