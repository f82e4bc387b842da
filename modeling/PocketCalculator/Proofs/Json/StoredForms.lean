import PocketCalculator.Proofs.Json.RoundTrip
import PocketCalculator.Proofs.Search
import PocketCalculator.Storage

/-!
# Stored forms are read back

Every type whose values are kept has a writer and a reader of JSON values.  The writer makes
proper values and the reader takes them back (`Json.Restores`), for the three shapes that
there are: a choice that is its name alone (`Json.named?_ofText`), a choice that holds a
value, and a structure with distinct names for its fields (`Json.fields?_record`).

As a proper value is read back from its text, **every stored value is read back from the text
that is written for it, and every text that is read as a value can be written anew without
changing the value** (`stored_forms_persist`).
-/

set_option autoImplicit false

namespace PocketCalculator
namespace Json

/-! ## Reading what is written -/

/-- The value of a type that a whole text is read as. -/
def readAs? {α : Type} (ofJson? : Json → Option α) (text : String) : Option α :=
  (read? text).bind ofJson?

/-- A writer makes proper values, and the reader takes them back. -/
structure Restores {α : Type} (toJson : α → Json) (ofJson? : Json → Option α) : Prop where
  /-- What is written is proper. -/
  proper : ∀ value, (toJson value).Proper
  /-- What is written is read as the value. -/
  restored : ∀ value, ofJson? (toJson value) = some value

/-- The texts of a stored form: every value is read back from its own, and a text that is
read as a value can be replaced by that value's own. -/
structure Persists {α : Type} (toJson : α → Json) (ofJson? : Json → Option α) : Prop where
  /-- The text of a value is read as the value. -/
  written : ∀ value, readAs? ofJson? (toJson value).text = some value
  /-- A text that is read as a value stands for the same value when it is written anew. -/
  rewritten : ∀ text value, readAs? ofJson? text = some value →
    readAs? ofJson? (toJson value).text = readAs? ofJson? text

theorem Restores.persists {α : Type} {toJson : α → Json} {ofJson? : Json → Option α}
    (restores : Restores toJson ofJson?) : Persists toJson ofJson? := by
  have written : ∀ value, readAs? ofJson? (toJson value).text = some value := by
    intro value
    rw [readAs?, read?_text (restores.proper value), Option.bind_some, restores.restored value]
  refine ⟨written, ?_⟩
  intro text value accepted
  rw [written value, accepted]

/-! ## Choices -/

theorem Proper.holding (name : String) {content : Json} (proper : content.Proper) :
    Proper (.holding name content) :=
  .record (List.forall_mem_singleton.mpr proper)

/-- **A choice that is its name alone is read back** if all names are different. -/
theorem named?_ofText {α : Type} {all : List α} {name : α → String}
    (distinct : (all.map name).Nodup) {value : α} (member : value ∈ all) :
    named? all name (ofText (name value)) = some value :=
  find?_name distinct member

/-- The stored form of a type whose values are stored by name. -/
theorem restores_named {α : Type} {all : List α} {name : α → String}
    (distinct : (all.map name).Nodup) (complete : ∀ value, value ∈ all) :
    Restores (fun value => ofText (name value)) (named? all name) where
  proper value := .ofText (name value)
  restored value := named?_ofText distinct (complete value)

/-! ## Structures -/

/-- A member of an object is found by its name if all names are different. -/
theorem member?_of_mem {members : List (String × Json)} (distinct : (members.map Prod.fst).Nodup)
    {name : String} {value : Json} (member : (name, value) ∈ members) :
    member? (members.map fun member => (some member.1, member.2)) name = some value := by
  have only : (members.map fun member => (some member.1, member.2)).filter
      (fun member => member.1 == some name) = [(some name, value)] := by
    induction members with
    | nil => contradiction
    | cons head rest ih =>
        obtain ⟨label, content⟩ := head
        rw [List.map_cons, List.nodup_cons] at distinct
        obtain ⟨fresh, others⟩ := distinct
        rw [List.map_cons, List.filter_cons]
        rcases List.mem_cons.mp member with same | later
        · obtain ⟨rfl, rfl⟩ := Prod.mk.inj same
          have noLater : (rest.map fun member => (some member.1, member.2)).filter
              (fun member => member.1 == some name) = [] := by
            rw [List.filter_eq_nil_iff]
            intro candidate isLater
            obtain ⟨other, inRest, rfl⟩ := List.mem_map.mp isLater
            rw [beq_iff_eq, Option.some.injEq]
            exact fun sameName => fresh (List.mem_map.mpr ⟨other, inRest, sameName⟩)
          rw [if_pos (beq_self_eq_true _), noLater]
        · have different : label ≠ name := by
            rintro rfl
            exact fresh (List.mem_map.mpr ⟨_, later, rfl⟩)
          rw [if_neg (by simpa using different), ih others later]
  rw [member?, only]

theorem mapM_member {members : List (String × Json)} {look : String → Option Json}
    (found : ∀ member ∈ members, look member.1 = some member.2) :
    (members.map Prod.fst).mapM look = some (members.map Prod.snd) := by
  induction members with
  | nil => rfl
  | cons member rest ih =>
      obtain ⟨here, later⟩ := List.forall_mem_cons.mp found
      rw [List.map_cons, List.mapM_cons, here, ih later]
      rfl

/-- **The fields of a structure are read back** if their names are all different. -/
theorem fields?_record {members : List (String × Json)}
    (distinct : (members.map Prod.fst).Nodup) :
    fields? (members.map Prod.fst) (record members) = some (members.map Prod.snd) := by
  have named : (members.map fun member => (some member.1, member.2)).all
      (fun member => member.1.isSome) = true := by
    rw [List.all_map, List.all_eq_true]
    intro member _
    rfl
  rw [record, fields?, if_pos named]
  exact mapM_member fun member isMember => member?_of_mem distinct isMember

/-! ## Natural numbers -/

/-- A natural number that is not too large is read back. -/
theorem natural?_ofNat {n most : Nat} (bound : n ≤ most) : natural? most (ofNat n) = some n := by
  have read : naturalOf? (Numeral.ofNat n) = some n :=
    congrArg some (Digits.value_ofNat n)
  rw [ofNat, natural?, read, Option.filter_some, if_pos (decide_eq_true bound)]

end Json

/-! ## Operators, keys and messages -/

open Json (Restores Persists)

theorem Operator.restores : Restores toJson ofJson? :=
  Json.restores_named (by decide) mem_all

theorem Key.restores : Restores toJson ofJson? where
  proper key := by
    cases key with
    | digit value => exact .holding "Digit" (.ofNat value.toNat)
    | decimal => exact .ofText _
    | percent => exact .ofText _
    | operator symbol => exact .holding "Operator" (Operator.restores.proper symbol)
  restored key := by
    cases key with
    | digit value =>
        have bound : value.toNat ≤ UInt8.size - 1 := Nat.le_sub_one_of_lt value.toNat_lt
        show ((Json.ofNat value.toNat).natural? (UInt8.size - 1)).map _ = _
        rw [Json.natural?_ofNat bound, Option.map_some, UInt8.ofNat_toNat]
    | decimal => rfl
    | percent => rfl
    | operator symbol =>
        show (Operator.ofJson? symbol.toJson).map operator = _
        rw [Operator.restores.restored, Option.map_some]

theorem Message.restores : Restores toJson ofJson? where
  proper message := by
    cases message with
    | press key => exact .holding "Press" (Key.restores.proper key)
    | equals => exact .ofText _
    | clear => exact .ofText _
    | delete => exact .ofText _
  restored message := by
    cases message with
    | press key =>
        show (Key.ofJson? key.toJson).map press = _
        rw [Key.restores.restored, Option.map_some]
    | equals => rfl
    | clear => rfl
    | delete => rfl

/-! ## The display -/

theorem Phase.restores : Restores toJson ofJson? :=
  Json.restores_named (by decide) fun phase => by cases phase <;> decide

theorem DisplayState.restores : Restores toJson ofJson? where
  proper state := by
    refine .record ?_
    simp only [List.forall_mem_cons]
    exact ⟨.ofText _, .bool _, nofun⟩
  restored state := by
    have distinct : fieldNames.Nodup := by decide
    have fields : state.toJson.fields? fieldNames =
        some [.ofText state.text, .bool state.isResult] := Json.fields?_record distinct
    rw [ofJson?, fields]
    rfl

/-! ## Buttons -/

theorem ButtonStyle.restores : Restores toJson ofJson? :=
  Json.restores_named (by decide) fun style => by cases style <;> decide

/-- A place on a grid is read back. -/
theorem Button.placeOfJson?_ofNat (place : UInt64) :
    placeOfJson? (.ofNat place.toNat) = some place := by
  have bound : place.toNat ≤ UInt64.size - 1 := Nat.le_sub_one_of_lt place.toNat_lt
  rw [placeOfJson?, Json.natural?_ofNat bound, Option.map_some, UInt64.ofNat_toNat]

theorem Button.restores : Restores toJson ofJson? where
  proper button := by
    refine .record ?_
    simp only [List.forall_mem_cons]
    exact ⟨.ofText _, .ofText _, Message.restores.proper _, .ofNat _, .ofNat _, .ofText _, nofun⟩
  restored button := by
    have distinct : fieldNames.Nodup := by decide
    have fields : button.toJson.fields? fieldNames =
        some [.ofText button.id, .ofText button.label, button.message.toJson,
          .ofNat button.row.toNat, .ofNat button.col.toNat, button.style.toJson] :=
      Json.fields?_record distinct
    rw [ofJson?, fields]
    simp only [Message.restores.restored, ButtonStyle.restores.restored, placeOfJson?_ofNat]
    rfl

/-! ## Settings -/

theorem Verbosity.restores : Restores toJson ofJson? :=
  Json.restores_named (by decide) fun verbosity => by cases verbosity <;> decide

theorem ColorChoice.restores : Restores toJson ofJson? :=
  Json.restores_named (by decide) fun choice => by cases choice <;> decide

theorem OutputFormat.restores : Restores toJson ofJson? :=
  Json.restores_named (by decide) fun format => by cases format <;> decide

theorem Settings.restores : Restores toJson ofJson? where
  proper settings := by
    refine .record ?_
    simp only [List.forall_mem_cons]
    exact ⟨.ofText _, .ofText _, .ofText _, nofun⟩
  restored settings := by
    have distinct : fieldNames.Nodup := by decide
    have fields : settings.toJson.fields? fieldNames =
        some [settings.verbosity.toJson, settings.color.toJson, settings.format.toJson] :=
      Json.fields?_record distinct
    rw [ofJson?, fields]
    simp only [Verbosity.restores.restored, ColorChoice.restores.restored,
      OutputFormat.restores.restored]
    rfl

/-! ## All stored forms -/

/-- **Every stored value is read back from the text that is written for it**, whatever its
texts and numbers are, and a text that is read as a value stands for the same value when it is
written anew. -/
theorem stored_forms_persist :
    Persists DisplayState.toJson DisplayState.ofJson? ∧
      Persists Operator.toJson Operator.ofJson? ∧
      Persists Key.toJson Key.ofJson? ∧
      Persists Message.toJson Message.ofJson? ∧
      Persists Phase.toJson Phase.ofJson? ∧
      Persists ButtonStyle.toJson ButtonStyle.ofJson? ∧
      Persists Button.toJson Button.ofJson? ∧
      Persists Verbosity.toJson Verbosity.ofJson? ∧
      Persists ColorChoice.toJson ColorChoice.ofJson? ∧
      Persists OutputFormat.toJson OutputFormat.ofJson? ∧
      Persists Settings.toJson Settings.ofJson? :=
  ⟨DisplayState.restores.persists, Operator.restores.persists, Key.restores.persists,
    Message.restores.persists, Phase.restores.persists, ButtonStyle.restores.persists,
    Button.restores.persists, Verbosity.restores.persists, ColorChoice.restores.persists,
    OutputFormat.restores.persists, Settings.restores.persists⟩

end PocketCalculator
