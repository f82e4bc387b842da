import PocketCalculator.Proofs.Command.Delivery
import PocketCalculator.Proofs.Command.Replay

/-!
# Presses as replays of prefixes

Pressing buttons works through a row of names up to the first that no button has, and with
a trace it writes while it works.  The session after each name is the one that the names up
to it lead to on a new calculator (`Session.pressEach_eq`), so a record of the trace is the
report on a shorter row of names (`Command.exists_report_of_record`), and the records before
an unknown name are those of the names in front of it (`Command.pressReports_accepted`).

**A row of buttons fails at its first unknown name and nowhere else, after the trace of the
names before it; and each record of a trace is what the names up to it report alone**
(`Command.press_replays_prefixes`).
-/

set_option autoImplicit false

namespace PocketCalculator

open Keypad (knows accepted firstUnknown?)

namespace Keypad

theorem accepted_accepted (names : List String) : accepted (accepted names) = accepted names :=
  accepted_of_known knows_of_mem_accepted

/-- A row of names begins with its accepted names. -/
theorem take_accepted {names : List String} {count : Nat}
    (within : count ≤ (accepted names).length) :
    (accepted names).take count = names.take count := by
  have parts : accepted names ++ names.dropWhile knows = names := List.takeWhile_append_dropWhile
  calc (accepted names).take count
      = (accepted names ++ names.dropWhile knows).take count :=
        (List.take_append_of_le_length within).symm
    _ = names.take count := by rw [parts]

/-- There is a first unknown name unless all names are known. -/
theorem firstUnknown?_eq_none_iff (names : List String) :
    firstUnknown? names = none ↔ ∀ name ∈ names, knows name = true := by
  simp [firstUnknown?, List.find?_eq_none]

/-- The first unknown name stands behind the accepted names. -/
theorem exists_split_of_firstUnknown? {names : List String} {name : String}
    (first : firstUnknown? names = some name) :
    knows name = false ∧ ∃ later, names = accepted names ++ name :: later := by
  induction names with
  | nil => exact nomatch first
  | cons head rest ih =>
      rw [firstUnknown?, List.find?_cons] at first
      rw [accepted, List.takeWhile_cons]
      cases known : knows head with
      | false =>
          rw [known] at first
          cases first
          exact ⟨known, rest, rfl⟩
      | true =>
          rw [known] at first
          obtain ⟨unknown, later, split⟩ := ih first
          refine ⟨unknown, later, ?_⟩
          rw [if_pos rfl, List.cons_append]
          exact congrArg (List.cons head) split

end Keypad

/-- **Each session of a trace is the one that the names up to it lead to.** -/
theorem Session.pressEach_eq (session : Session) (names : List String) :
    session.pressEach names =
      (accepted names).mapIdx fun index name =>
        (name, (session.pressAll ((accepted names).take (index + 1))).1) := by
  induction names generalizing session with
  | nil => rfl
  | cons name rest ih =>
      rw [accepted, List.takeWhile_cons, pressEach]
      cases known : knows name with
      | false =>
          rw [press?_of_unknown known, if_neg Bool.false_ne_true]
          rfl
      | true =>
          obtain ⟨next, pressed⟩ := exists_press?_of_knows known session
          -- Pressing goes on from the session after the first name.
          have goesOn : ∀ names, session.pressAll (name :: names) = next.pressAll names :=
            fun names => by rw [pressAll, pressed]
          rw [pressed, if_pos rfl, List.mapIdx_cons]
          simp only [List.take_succ_cons, goesOn]
          exact congrArg (List.cons (name, next)) (ih next)

namespace Command

/-! ## Records of a trace -/

/-- The records before an unknown name are those of the names in front of it. -/
theorem pressReports_accepted (names : List String) :
    pressReports (accepted names) = pressReports names := by
  rw [pressReports, pressReports, Session.pressEach_eq, Session.pressEach_eq,
    Keypad.accepted_accepted]

theorem length_pressReports (names : List String) :
    (pressReports names).length = (accepted names).length := by
  rw [pressReports, Session.pressEach_eq, List.length_map, List.length_mapIdx]

/-- Known names are reported on. -/
theorem pressReport?_of_known {names : List String} (known : ∀ name ∈ names, knows name = true) :
    pressReport? names =
      some ((Session.new.pressAll names).1.report (String.intercalate " " names)) := by
  have all := Session.pressAll_of_known known .new
  rw [pressReport?]
  cases pressed : Session.new.pressAll names with
  | mk final unknown =>
      rw [pressed] at all
      cases all
      rfl

/-- A row with an unknown name has no report. -/
theorem pressReport?_of_firstUnknown? {names : List String} {name : String}
    (first : firstUnknown? names = some name) : pressReport? names = none := by
  rw [pressReport?, Session.pressAll_eq, first]

/-- **A record of a trace is the report on the names up to it, under the last of them.** -/
theorem getElem_pressReports {names : List String} {index : Nat}
    (isRecord : index < (pressReports names).length) :
    ∃ (isName : index < names.length) (alone : Report),
      pressReport? (names.take (index + 1)) = some alone ∧
        (pressReports names)[index] = { alone with input := names[index] } := by
  have within : index < (accepted names).length := by rwa [← length_pressReports]
  have isPrefix : accepted names <+: names := List.takeWhile_prefix knows
  have isName : index < names.length := Nat.lt_of_lt_of_le within isPrefix.length_le
  have known : ∀ name ∈ names.take (index + 1), knows name = true := by
    rw [← Keypad.take_accepted within]
    exact fun name member => Keypad.knows_of_mem_accepted name (List.mem_of_mem_take member)
  refine ⟨isName, _, pressReport?_of_known known, ?_⟩
  simp only [pressReports, Session.pressEach_eq, List.getElem_map, List.getElem_mapIdx,
    Keypad.take_accepted within, isPrefix.getElem within]
  rfl

/-! ## What pressing writes -/

section press

variable (settings : Settings) (terminal : Bool) (input : List UInt8)

/-- A row of buttons writes its transcript after what the sink holds, and fails at its first
unknown name. -/
theorem perform_press (names : List String) (trace : Bool) (refusal : String)
    (before : List UInt8) :
    (press names trace).perform settings terminal input { refusal, kept := before } =
      (Failure.result ((firstUnknown? names).map .unknownButton) (),
        { refusal, kept :=
          before ++ ((press names trace).run settings terminal input).bytes }) := by
  have written := emits_perform settings terminal (press names trace) input
    { refusal, kept := before }
  have failure : ((press names trace).run settings terminal input).failure
      = (firstUnknown? names).map .unknownButton := by
    show (Session.new.pressAll names).2.map Failure.unknownButton = _
    rw [Session.pressAll_eq]
  rw [← failure]
  exact written

/-- A trace is written record by record. -/
theorem bytes_press_traced (names : List String) :
    ((press names true).run settings terminal input).bytes =
      (unlessQuiet settings ((pressReports names).map
        (Printer.ofSettings settings terminal).trace)).flatMap lineBytes := rfl

/-- Without a trace a report is written, if there is one. -/
theorem bytes_press_plain (names : List String) :
    ((press names false).run settings terminal input).bytes =
      (unlessQuiet settings ((pressReport? names).map
        (Printer.ofSettings settings terminal).report).toList).flatMap lineBytes := rfl

/-- Pressing fails unless all names are known. -/
theorem result_firstUnknown?_eq_ok_iff (names : List String) :
    Failure.result ((firstUnknown? names).map .unknownButton) () = .ok () ↔
      ∀ name ∈ names, knows name = true := by
  rw [← Keypad.firstUnknown?_eq_none_iff]
  cases firstUnknown? names with
  | none => exact iff_of_true rfl rfl
  | some name => exact iff_of_false nofun nofun

/-- What is written before an unknown name is the trace of the names in front of it, if
there is a trace. -/
theorem bytes_press_of_firstUnknown? {names : List String} {name : String}
    (first : firstUnknown? names = some name) (trace : Bool) :
    ((press names trace).run settings terminal input).bytes =
      if trace && !settings.isQuiet then
        ((press (accepted names) true).run settings terminal input).bytes
      else [] := by
  cases trace with
  | false =>
      rw [bytes_press_plain, pressReport?_of_firstUnknown? first]
      exact congrArg (List.flatMap lineBytes) (unlessQuiet_nil settings)
  | true =>
      rw [bytes_press_traced, bytes_press_traced, pressReports_accepted]
      cases quiet : settings.isQuiet with
      | false => rfl
      | true => rw [unlessQuiet, quiet]; rfl

/-- A row of buttons with a report writes that report and ends well. -/
theorem perform_press_of_report {names : List String} {alone : Report}
    (loud : settings.isQuiet = false) (reported : pressReport? names = some alone)
    (refusal : String) (before : List UInt8) :
    (press names false).perform settings terminal input { refusal, kept := before } =
      (.ok (), { refusal, kept :=
        before ++ lineBytes ((Printer.ofSettings settings terminal).report alone) }) := by
  have known : firstUnknown? names = none := by
    rw [Option.eq_none_iff_forall_not_mem]
    intro name first
    rw [pressReport?_of_firstUnknown? first] at reported
    contradiction
  rw [perform_press, known, bytes_press_plain, unlessQuiet_of_loud loud, reported,
    Option.map_some, Option.toList_some, List.flatMap_singleton]
  rfl

end press

/-- **A row of buttons is a replay of its prefixes.** On a sink that never refuses a byte it
ends well exactly if all its names are known, whatever its evaluations come to.  Otherwise
it fails with the first unknown name, and has written nothing but, if it is traced under
settings that are not quiet, the trace of the names before that one.  Such a trace has a
record for each of these names, which shows the display, the phase and the failure that the
names up to it report without a trace. -/
theorem press_replays_prefixes (settings : Settings) (terminal : Bool) (input : List UInt8)
    (names : List String) (refusal : String) (before : List UInt8) :
    let printer := Printer.ofSettings settings terminal
    let sink : Sink := { refusal, kept := before }
    let performed := fun names trace => (press names trace).perform settings terminal input sink
    (∀ trace, (performed names trace).1 = .ok () ↔
        ∀ name ∈ names, (Keypad.findByLabel? name).isSome = true) ∧
      ((∃ name ∈ names, Keypad.findByLabel? name = none) →
        ∃ earlier name later, names = earlier ++ name :: later ∧
          (∀ other ∈ earlier, (Keypad.findByLabel? other).isSome = true) ∧
          Keypad.findByLabel? name = none ∧
          ∀ trace, (performed names trace).1 = .error (.unknownButton name) ∧
            (performed names trace).2.kept =
              if trace && !settings.isQuiet then (performed earlier true).2.kept else before) ∧
      (settings.isQuiet = false → ∃ records : List Report,
        (performed names true).2.kept =
            before ++ records.flatMap (fun record => lineBytes (printer.trace record)) ∧
          records.length = (accepted names).length ∧
          ∀ (index : Nat) (isRecord : index < records.length),
            ∃ (isName : index < names.length) (alone : Report),
              performed (names.take (index + 1)) false =
                  (.ok (), { sink with kept := before ++ lineBytes (printer.report alone) }) ∧
                pressReport? (names.take (index + 1)) = some alone ∧
                records[index] = { alone with input := names[index] }) := by
  intro printer sink performed
  have shown : ∀ names trace, performed names trace = _ :=
    fun names trace => perform_press settings terminal input names trace refusal before
  refine ⟨fun trace => ?_, ?_, fun loud => ?_⟩
  · rw [shown]
    exact result_firstUnknown?_eq_ok_iff names
  · rintro ⟨unknown, member, refused⟩
    obtain ⟨name, first⟩ : ∃ name, firstUnknown? names = some name := by
      rw [← Option.ne_none_iff_exists', ne_eq, Keypad.firstUnknown?_eq_none_iff]
      intro known
      exact Option.isSome_iff_ne_none.mp (known unknown member) refused
    obtain ⟨isUnknown, later, split⟩ := Keypad.exists_split_of_firstUnknown? first
    refine ⟨accepted names, name, later, split, Keypad.knows_of_mem_accepted,
      Option.isNone_iff_eq_none.mp (Option.isSome_eq_false_iff.mp isUnknown), fun trace => ?_⟩
    rw [shown, shown, first, bytes_press_of_firstUnknown? settings terminal input first trace]
    refine ⟨rfl, ?_⟩
    dsimp only
    split
    · rfl
    · exact List.append_nil before
  · refine ⟨pressReports names, ?_, length_pressReports names, fun index isRecord => ?_⟩
    · rw [shown, bytes_press_traced, unlessQuiet_of_loud loud, List.flatMap_map]
    · obtain ⟨isName, alone, reported, record⟩ := getElem_pressReports isRecord
      exact ⟨isName, alone, perform_press_of_report settings terminal input loud reported refusal
        before, reported, record⟩

end Command
end PocketCalculator
