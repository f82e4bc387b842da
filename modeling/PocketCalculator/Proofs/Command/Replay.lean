import PocketCalculator.Proofs.Command.Reports
import PocketCalculator.Proofs.Text.Lines
import PocketCalculator.Proofs.Text.Words

/-!
# Conversations as replays

A conversation presses the buttons that its lines name, line by line, each line up to the
first name that no button has.  A row of names that all have buttons can be divided
anywhere (`Session.pressAll_append`), so the session after a line is the one that all names
accepted so far lead to when they are pressed in one row (`Session.exchanges`).

**A conversation is one replay of the accepted names** (`conversation_replays`): its
sessions, its reports and its complaints about unknown names are told by the names alone,
and where the lines break does not matter.
-/

set_option autoImplicit false

namespace PocketCalculator

namespace Keypad

/-- Whether a button has the name. -/
def knows (name : String) : Bool := (findByLabel? name).isSome

/-- The names of a row before the first that no button has. -/
def accepted (names : List String) : List String := names.takeWhile knows

/-- The first name of a row that no button has. -/
def firstUnknown? (names : List String) : Option String := names.find? fun name => !knows name

theorem knows_of_mem_accepted {names : List String} :
    ∀ name ∈ accepted names, knows name = true :=
  List.all_eq_true.mp List.all_takeWhile

theorem accepted_of_known {names : List String} (known : ∀ name ∈ names, knows name = true) :
    accepted names = names := by
  induction names with
  | nil => rfl
  | cons name rest ih =>
      rw [accepted, List.takeWhile_cons, if_pos (known name List.mem_cons_self)]
      exact congrArg _ (ih fun later member => known later (List.mem_cons_of_mem name member))

end Keypad

namespace Session

open Keypad (knows accepted firstUnknown?)

/-! ## Rows of names -/

theorem exists_press?_of_knows {name : String} (known : knows name = true) (session : Session) :
    ∃ next, session.press? name = some next := by
  obtain ⟨button, found⟩ := Option.isSome_iff_exists.mp known
  exact ⟨session.send button.message, by rw [press?, found, Option.map_some]⟩

/-- An unknown name is refused. -/
theorem press?_of_unknown {name : String} (unknown : knows name = false) (session : Session) :
    session.press? name = none := by
  rw [press?, Option.map_eq_none_iff]
  exact Option.isNone_iff_eq_none.mp (Option.isSome_eq_false_iff.mp unknown)

/-- Known names are all pressed. -/
theorem pressAll_of_known {names : List String} (known : ∀ name ∈ names, knows name = true)
    (session : Session) : (session.pressAll names).2 = none := by
  induction names generalizing session with
  | nil => rfl
  | cons name rest ih =>
      obtain ⟨next, pressed⟩ := exists_press?_of_knows (known name List.mem_cons_self) session
      rw [pressAll, pressed]
      exact ih (fun later member => known later (List.mem_cons_of_mem name member)) next

/-- **A row of known names can be divided anywhere.** -/
theorem pressAll_append {first : List String} (known : ∀ name ∈ first, knows name = true)
    (session : Session) (second : List String) :
    session.pressAll (first ++ second) = (session.pressAll first).1.pressAll second := by
  induction first generalizing session with
  | nil => rfl
  | cons name rest ih =>
      obtain ⟨next, pressed⟩ := exists_press?_of_knows (known name List.mem_cons_self) session
      rw [List.cons_append, pressAll, pressAll, pressed]
      exact ih (fun later member => known later (List.mem_cons_of_mem name member)) next

/-- Of any row the accepted names are pressed, and the next is refused. -/
theorem pressAll_eq (session : Session) (names : List String) :
    session.pressAll names = ((session.pressAll (accepted names)).1, firstUnknown? names) := by
  induction names generalizing session with
  | nil => rfl
  | cons name rest ih =>
      rw [accepted, List.takeWhile_cons, firstUnknown?, List.find?_cons, pressAll]
      cases known : knows name with
      | true =>
          obtain ⟨next, pressed⟩ := exists_press?_of_knows known session
          rw [if_pos rfl, pressAll, pressed]
          exact ih next
      | false =>
          rw [if_neg Bool.false_ne_true, press?_of_unknown known]
          rfl

/-! ## Lines -/

/-- The names on a line before the first that no button has. -/
def acceptedOn (turn : String) : List String := accepted (Text.words turn)

theorem knows_of_mem_acceptedOn {turns : List String} :
    ∀ name ∈ turns.flatMap acceptedOn, knows name = true := by
  intro name member
  obtain ⟨turn, _, accepted⟩ := List.mem_flatMap.mp member
  exact Keypad.knows_of_mem_accepted name accepted

/-- What a row of lines does: each is met by the session after all names accepted so far. -/
def exchanges (session : Session) (turns : List String) : List Exchange :=
  turns.mapIdx fun index turn =>
    { input := turn
      unknown := firstUnknown? (Text.words turn)
      session := (session.pressAll ((turns.take (index + 1)).flatMap acceptedOn)).1 }

theorem exchange_eq (session : Session) (turn : String) :
    session.exchange turn =
      { input := turn
        unknown := firstUnknown? (Text.words turn)
        session := (session.pressAll (acceptedOn turn)).1 } := by
  rw [exchange, pressAll_eq]
  rfl

/-- The unknown name of an exchange is the first on its line that no button has. -/
theorem unknown_of_mem_converse {session : Session} {lines : List (List UInt8)} :
    ∀ exchange ∈ (session.converse lines).1,
      exchange.unknown = firstUnknown? (Text.words exchange.input) := by
  intro exchange member
  have any : ∀ (before : Session) (input : String), True → True := fun _ _ => id
  obtain ⟨before, -, same⟩ := of_mem_converse any trivial lines exchange member
  rw [same, exchange_eq]

/-- The first line is answered, and the others go on from there. -/
theorem exchanges_cons (session : Session) (turn : String) (rest : List String) :
    session.exchanges (turn :: rest) =
      session.exchange turn :: (session.exchange turn).session.exchanges rest := by
  rw [exchanges, List.mapIdx_cons, exchange_eq]
  congr 1
  · simp only [Nat.zero_add, List.take_succ_cons, List.take_zero, List.flatMap_cons,
      List.flatMap_nil, List.append_nil]
  · refine congrArg (List.mapIdx · rest) (funext fun index => funext fun later => ?_)
    rw [List.take_succ_cons, List.flatMap_cons, acceptedOn,
      pressAll_append Keypad.knows_of_mem_accepted]

/-- The session at the end of a conversation. -/
def ending (session : Session) (exchanges : List Exchange) : Session :=
  (exchanges.getLast?.map Exchange.session).getD session

/-- A conversation ends in the session that all accepted names lead to. -/
theorem ending_exchanges (session : Session) (turns : List String) :
    session.ending (session.exchanges turns)
      = (session.pressAll (turns.flatMap acceptedOn)).1 := by
  cases turns with
  | nil => rfl
  | cons turn rest =>
      obtain ⟨last, isLast⟩ : ∃ last, (turn :: rest).getLast? = some last :=
        ⟨_, List.getLast?_eq_some_getLast (List.cons_ne_nil turn rest)⟩
      rw [ending, exchanges, List.getLast?_mapIdx, isLast]
      simp only [Option.map_some, Option.getD_some, List.length_cons, Nat.add_sub_cancel]
      rw [List.take_of_length_le (by simp)]

end Session

/-! ## Conversations -/

/-- The lines of a conversation that have something on them, without blanks at their ends,
up to the first word that ends it. -/
def turnsOfLines (lines : List (List Char)) : List String :=
  ((lines.map fun line => Text.trim (String.ofList line)).takeWhile
    fun turn => turn ∉ farewells).filter fun turn => turn ≠ ""

/-- The lines of a conversation in a text. -/
def turns (text : String) : List String := turnsOfLines (text.toList.splitOn '\n')

theorem turnsOfLines_cons (line : List Char) (rest : List (List Char)) :
    turnsOfLines (line :: rest) =
      if Text.trim (String.ofList line) = "" then turnsOfLines rest
      else if Text.trim (String.ofList line) ∈ farewells then []
      else Text.trim (String.ofList line) :: turnsOfLines rest := by
  rw [turnsOfLines, List.map_cons, List.takeWhile_cons]
  split
  · rename_i goes
    rw [List.filter_cons]
    simp only [decide_eq_true_eq] at goes
    by_cases blank : Text.trim (String.ofList line) = ""
    · rw [if_neg (by simpa using blank), if_pos blank]
      rfl
    · rw [if_pos (by simpa using blank), if_neg blank, if_neg goes]
      rfl
  · rename_i ends
    have farewell : Text.trim (String.ofList line) ∈ farewells := by simpa using ends
    have solid : Text.trim (String.ofList line) ≠ "" := by
      intro blank
      rw [blank] at farewell
      exact absurd farewell (by decide)
    rw [if_neg solid, if_pos farewell, List.filter_nil]

/-- **A conversation over lines of text answers these lines in turn.** -/
theorem Session.converse_encoding (session : Session) (lines : List (List Char)) :
    session.converse (lines.map Text.encoding)
      = (session.exchanges (turnsOfLines lines), none) := by
  induction lines generalizing session with
  | nil => rfl
  | cons line rest ih =>
      rw [List.map_cons, converse, LineReading.ofBytes_encoding, turnsOfLines_cons]
      by_cases blank : Text.trim (String.ofList line) = ""
      · rw [if_pos blank, if_pos blank]
        exact ih session
      · rw [if_neg blank, if_neg blank]
        by_cases farewell : Text.trim (String.ofList line) ∈ farewells
        · rw [if_pos farewell, if_pos farewell]
          rfl
        · rw [if_neg farewell, if_neg farewell]
          simp only [ih, exchanges_cons]

/-- The accepted names of a text whose words all have buttons are its words. -/
theorem accepted_turnsOfLines {lines : List (List Char)}
    (known : ∀ name ∈ lines.flatMap fun line => Text.words (String.ofList line),
      Keypad.knows name = true) :
    (turnsOfLines lines).flatMap Session.acceptedOn =
      lines.flatMap fun line => Text.words (String.ofList line) := by
  induction lines with
  | nil => rfl
  | cons line rest ih =>
      rw [List.flatMap_cons] at known
      have onLine : ∀ name ∈ Text.words (String.ofList line), Keypad.knows name = true :=
        fun name member => known name (List.mem_append_left _ member)
      have later := ih fun name member => known name (List.mem_append_right _ member)
      rw [turnsOfLines_cons, List.flatMap_cons]
      by_cases blank : Text.trim (String.ofList line) = ""
      · have noWords : Text.words (String.ofList line) = [] := by
          rw [← Text.words_trim, blank]
          rfl
        rw [if_pos blank, later, noWords, List.nil_append]
      · rw [← Text.words_trim] at onLine
        have goes : Text.trim (String.ofList line) ∉ farewells := by
          intro farewell
          have unknown :
              ∀ word ∈ farewells, ∃ name ∈ Text.words word, Keypad.knows name ≠ true := by
            decide +kernel
          obtain ⟨name, member, refused⟩ := unknown _ farewell
          exact refused (onLine name member)
        rw [if_neg blank, if_neg goes, List.flatMap_cons, later, Session.acceptedOn,
          Keypad.accepted_of_known onLine, Text.words_trim]

/-- The session at the end of a conversation over an input. -/
def conversationEnd (input : List UInt8) : Session :=
  Session.new.ending (Session.new.converse (splitLines input)).1

/-- The exchanges of a conversation over a text. -/
theorem converse_toUTF8 (text : String) :
    Session.new.converse (splitLines text.toUTF8.toList)
      = (Session.new.exchanges (turns text), none) := by
  rw [Session.converse_splitLines, Text.toList_toUTF8, Text.splitOn_encoding,
    Session.converse_encoding, turns]

/-- A conversation over a text ends in the session that its accepted names lead to. -/
theorem conversationEnd_toUTF8 (text : String) :
    conversationEnd text.toUTF8.toList
      = (Session.new.pressAll ((turns text).flatMap Session.acceptedOn)).1 := by
  rw [conversationEnd, converse_toUTF8, Session.ending_exchanges]

/-- **A conversation is one replay of the accepted names.** Each line that is not blank,
up to a word of farewell, leaves the session that all names accepted so far lead to when
they are pressed in one row, and is reported as pressing them would be; it is answered
with its first unknown name, if it has one, and then with its report.  Two conversations
with the same accepted names end in the same session; so do two whose names are all known
if they differ in nothing but blanks and line breaks. -/
theorem conversation_replays (text : String) :
    let accepted := fun count => ((turns text).take count).flatMap Session.acceptedOn
    let replay := fun count => (Session.new.pressAll (accepted count)).1
    (∀ count, ∃ report, Command.pressReport? (accepted count) = some report ∧
        ∀ input, (replay count).report input = { report with input }) ∧
      Session.new.converse (splitLines text.toUTF8.toList) =
        ((turns text).mapIdx fun index turn =>
          { input := turn
            unknown := Keypad.firstUnknown? (Text.words turn)
            session := replay (index + 1) }, none) ∧
      (∀ settings terminal, Command.repl.run settings terminal text.toUTF8.toList =
        { lines := ((turns text).mapIdx fun index turn =>
            ((Keypad.firstUnknown? (Text.words turn)).map ("Unknown button: " ++ ·)).toList ++
              unlessQuiet settings [(Printer.ofSettings settings terminal).trace
                ((replay (index + 1)).report turn)]).flatten
          failure := none }) ∧
      (∀ other, (turns other).flatMap Session.acceptedOn = (turns text).flatMap Session.acceptedOn →
        conversationEnd other.toUTF8.toList = conversationEnd text.toUTF8.toList) ∧
      (∀ other, (∀ name ∈ Text.words text, Keypad.knows name = true) →
        Text.words other = Text.words text →
          conversationEnd other.toUTF8.toList = conversationEnd text.toUTF8.toList) := by
  intro accepted replay
  have sameNames : ∀ other,
      (turns other).flatMap Session.acceptedOn = (turns text).flatMap Session.acceptedOn →
        conversationEnd other.toUTF8.toList = conversationEnd text.toUTF8.toList := by
    intro other same
    rw [conversationEnd_toUTF8, conversationEnd_toUTF8, same]
  refine ⟨?_, converse_toUTF8 text, ?_, sameNames, ?_⟩
  · intro count
    have pressed : Session.new.pressAll (accepted count) = (replay count, none) :=
      Prod.ext rfl (Session.pressAll_of_known Session.knows_of_mem_acceptedOn _)
    refine ⟨(replay count).report (String.intercalate " " (accepted count)), ?_, fun input => rfl⟩
    rw [Command.pressReport?, pressed]
  · intro settings terminal
    show Command.replTranscript settings (.ofSettings settings terminal) _ = _
    rw [Command.replTranscript, converse_toUTF8]
    dsimp only
    rw [Session.exchanges, List.flatMap_def]
    simp only [List.mapIdx_eq_zipIdx_map, List.map_map]
    rfl
  · intro other known same
    refine sameNames other ?_
    rw [turns, turns, accepted_turnsOfLines, accepted_turnsOfLines, ← Text.words_lines,
      ← Text.words_lines, same]
    · rwa [← Text.words_lines]
    · rw [← Text.words_lines, same]
      exact known

end PocketCalculator
