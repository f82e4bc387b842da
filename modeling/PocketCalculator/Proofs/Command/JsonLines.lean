import PocketCalculator.Proofs.Command.Replay
import PocketCalculator.Proofs.Json.StoredForms

/-!
# The lines of a command in JSON

What a command has to show in JSON is a row of values (`Command.documents`), all of them
proper, so each is written on one line and read back from it.  A conversation also answers
names that no button has (`Command.unknownNames`), with the same words as in text.  Such a
line is no JSON (`Json.read?_unknownButton`).

**In JSON the lines of a command are its documents and its complaints about unknown
names** (`Command.run_json`): reading the lines gives the documents back, in order, and the
lines that cannot be read are these complaints and nothing else.
-/

set_option autoImplicit false

namespace PocketCalculator

/-! ## Values that are written -/

theorem Keypad.proper_toJson : Keypad.toJson.Proper := by
  refine .array fun element isElement => ?_
  obtain ⟨button, -, rfl⟩ := List.mem_map.mp isElement
  exact Button.restores.proper button

theorem Report.proper_toJson (report : Report) : report.toJson.Proper := by
  refine .record fun member isMember => ?_
  simp only [List.mem_append, List.mem_cons, List.not_mem_nil, or_false, Option.mem_toList,
    Option.map_eq_some_iff] at isMember
  rcases isMember with (rfl | rfl | rfl) | ⟨message, -, rfl⟩ <;> exact .ofText _

/-! ## Complaints about unknown names -/

theorem Failure.toList_unknownButton (name : String) :
    (unknownButton name).message.toList = "Unknown button: ".toList ++ name.toList :=
  String.toList_append

/-- What is said of an unknown name is no JSON. -/
theorem Json.read?_unknownButton (name : String) :
    read? (Failure.unknownButton name).message = none := by
  have letters : "Unknown button: ".toList = 'U' :: "nknown button: ".toList := rfl
  rw [read?, readChars?, Failure.toList_unknownButton, letters]
  rfl

/-- A name on a line holds no line break. -/
theorem Text.newline_notMem_of_mem_words {text name : String} (member : name ∈ words text) :
    '\n' ∉ name.toList := by
  obtain ⟨word, isWord, rfl⟩ := List.mem_map.mp member
  rw [String.toList_ofList]
  intro letter
  have solid := not_isBlank_of_mem_words isWord letter
  exact absurd solid (by decide)

/-- The unknown name of an exchange is a word of its line. -/
theorem Session.mem_words_of_mem_converse {session : Session} {lines : List (List UInt8)}
    {exchange : Exchange} (member : exchange ∈ (session.converse lines).1) {name : String}
    (unknown : exchange.unknown = some name) : name ∈ Text.words exchange.input := by
  rw [unknown_of_mem_converse exchange member] at unknown
  exact List.mem_of_find?_eq_some unknown

/-! ## Rows of lines -/

/-- Lines of which some are the texts of documents and the others are no JSON. -/
structure Json.Divides (lines : List String) (documents : List Json) (others : List String) :
    Prop where
  documents : lines.filterMap Json.read? = documents
  others : lines.filter (fun line => (Json.read? line).isNone) = others

namespace Json.Divides

theorem nil : Divides [] [] [] := ⟨rfl, rfl⟩

theorem append {firstLines secondLines : List String} {firstDocuments secondDocuments : List Json}
    {firstOthers secondOthers : List String}
    (first : Divides firstLines firstDocuments firstOthers)
    (second : Divides secondLines secondDocuments secondOthers) :
    Divides (firstLines ++ secondLines) (firstDocuments ++ secondDocuments)
      (firstOthers ++ secondOthers) where
  documents := by rw [List.filterMap_append, first.documents, second.documents]
  others := by rw [List.filter_append, first.others, second.others]

theorem text {document : Json} (proper : document.Proper) :
    Divides [document.text] [document] [] where
  documents := by rw [List.filterMap_cons, Json.read?_text proper, List.filterMap_nil]
  others := by
    rw [List.filter_cons, Json.read?_text proper]
    rfl

theorem texts {documents : List Json} (proper : ∀ document ∈ documents, document.Proper) :
    Divides (documents.map Json.text) documents [] := by
  induction documents with
  | nil => exact nil
  | cons document rest ih =>
      obtain ⟨first, later⟩ := List.forall_mem_cons.mp proper
      exact (text first).append (ih later)

theorem unknownButton (name : String) :
    Divides [(Failure.unknownButton name).message] [] [(Failure.unknownButton name).message] where
  documents := by rw [List.filterMap_cons, Json.read?_unknownButton, List.filterMap_nil]
  others := by
    rw [List.filter_cons, Json.read?_unknownButton]
    rfl

end Json.Divides

namespace Command

/-- The values that a command shows in JSON, whether they are written or kept back. -/
def documents (command : Command) (input : List UInt8) : List Json :=
  match command with
  | keypad => [Keypad.toJson]
  | _ => (command.reports input).map Report.toJson

theorem proper_documents (command : Command) (input : List UInt8) :
    ∀ document ∈ command.documents input, document.Proper := by
  have reported : ∀ reports : List Report, ∀ document ∈ reports.map Report.toJson,
      document.Proper := by
    intro reports document member
    obtain ⟨report, -, rfl⟩ := List.mem_map.mp member
    exact report.proper_toJson
  cases command with
  | eval => exact reported _
  | press => exact reported _
  | repl => exact reported _
  | keypad => exact List.forall_mem_singleton.mpr Keypad.proper_toJson

theorem divides_unlessQuiet (settings : Settings) {documents : List Json}
    (proper : ∀ document ∈ documents, document.Proper) :
    Json.Divides (unlessQuiet settings (documents.map Json.text))
      (if settings.isQuiet then [] else documents) [] := by
  rw [unlessQuiet]
  split
  · exact .nil
  · exact .texts proper

section json

variable {printer : Printer} (inJson : printer.format = .json)
include inJson

theorem report_json (report : Report) : printer.report report = report.toJson.text := by
  rw [Printer.report, inJson]

theorem trace_json (report : Report) : printer.trace report = report.toJson.text := by
  rw [Printer.trace, inJson]
  exact report_json inJson report

theorem keypad_json : printer.keypad = Keypad.toJson.text := by
  rw [Printer.keypad, inJson]

/-- The lines of one exchange. -/
theorem divides_answer (quiet : Bool) (exchange : Exchange) :
    Json.Divides (exchange.answer printer quiet)
      (if quiet then [] else [(exchange.session.report exchange.input).toJson])
      (exchange.unknown.map fun name => (Failure.unknownButton name).message).toList := by
  have complaint : Json.Divides
      (exchange.unknown.map fun name => (Failure.unknownButton name).message).toList []
      (exchange.unknown.map fun name => (Failure.unknownButton name).message).toList := by
    cases exchange.unknown with
    | none => exact .nil
    | some name => exact .unknownButton name
  have shown : Json.Divides
      (if quiet then [] else [printer.trace (exchange.session.report exchange.input)])
      (if quiet then [] else [(exchange.session.report exchange.input).toJson]) [] := by
    cases quiet with
    | true => exact .nil
    | false =>
        rw [if_neg Bool.false_ne_true, if_neg Bool.false_ne_true, trace_json inJson]
        exact .text (Report.proper_toJson _)
  have both := complaint.append shown
  rw [List.nil_append, List.append_nil] at both
  exact both

/-- The lines of a row of exchanges. -/
theorem divides_answers (quiet : Bool) (exchanges : List Exchange) :
    Json.Divides (exchanges.flatMap (Exchange.answer printer quiet))
      (if quiet then []
        else exchanges.map fun exchange => (exchange.session.report exchange.input).toJson)
      ((exchanges.filterMap Exchange.unknown).map fun name =>
        (Failure.unknownButton name).message) := by
  induction exchanges with
  | nil =>
      rw [List.map_nil, ite_self]
      exact .nil
  | cons exchange rest ih =>
      have both := (divides_answer inJson quiet exchange).append ih
      rw [List.flatMap_cons, List.filterMap_cons]
      cases quiet <;> cases unknown : exchange.unknown <;> rw [unknown] at both <;> exact both

/-- The lines of a command. -/
theorem divides_transcript (settings : Settings) (command : Command) (input : List UInt8) :
    Json.Divides (command.transcript settings printer input).lines
      (if settings.isQuiet then [] else command.documents input)
      ((command.unknownNames input).map fun name => (Failure.unknownButton name).message) := by
  have shown := divides_unlessQuiet settings (command.proper_documents input)
  match command with
  | eval expression =>
      rw [transcript, evalTranscript]
      dsimp only
      rw [report_json inJson]
      exact shown
  | press buttons true =>
      have traced : printer.trace = fun report => report.toJson.text :=
        funext (trace_json inJson)
      have texts : ((press buttons true).documents input).map Json.text =
          (pressReports buttons).map fun report => report.toJson.text := List.map_map
      rw [texts] at shown
      rw [transcript, pressTranscript, traced]
      exact shown
  | press buttons false =>
      have reported : printer.report = fun report => report.toJson.text :=
        funext (report_json inJson)
      have texts : ((press buttons false).documents input).map Json.text =
          ((pressReport? buttons).map fun report => report.toJson.text).toList := by
        show ((pressReport? buttons).toList.map Report.toJson).map Json.text = _
        cases pressReport? buttons <;> rfl
      rw [texts] at shown
      rw [transcript, pressTranscript, reported]
      exact shown
  | repl =>
      have answers := divides_answers inJson settings.isQuiet
        (Session.new.converse (splitLines input)).1
      have same : repl.documents input = (Session.new.converse (splitLines input)).1.map
          fun exchange => (exchange.session.report exchange.input).toJson := List.map_map
      rw [← same] at answers
      exact answers
  | keypad =>
      rw [transcript, keypadTranscript, keypad_json inJson]
      exact shown

end json

/-- A line of a command in JSON holds no line break. -/
theorem newline_notMem_of_mem_lines {settings : Settings} (inJson : settings.format = .json)
    {terminal : Bool} {command : Command} {input : List UInt8} {line : String}
    (written : line ∈ (command.run settings terminal input).lines) : '\n' ∉ line.toList := by
  have printed : (Printer.ofSettings settings terminal).format = .json := inJson
  rcases mem_lines written with ⟨report, -, rfl | rfl⟩ | ⟨name, isUnknown, rfl⟩ | ⟨-, rfl⟩
  · rw [report_json printed]
    exact Json.newline_notMem_text _
  · rw [trace_json printed]
    exact Json.newline_notMem_text _
  · have whole : '\n' ∉ name.toList := by
      match command with
      | repl =>
          obtain ⟨exchange, isExchange, unknown⟩ := List.mem_filterMap.mp isUnknown
          exact Text.newline_notMem_of_mem_words
            (Session.mem_words_of_mem_converse isExchange unknown)
    rw [Failure.toList_unknownButton, List.mem_append, not_or]
    exact ⟨by decide, whole⟩
  · rw [keypad_json printed]
    exact Json.newline_notMem_text _

/-- **In JSON the lines of a command are its documents and its complaints about unknown
names.** What is written are these lines, each ended by the only newline in it.  Reading
them gives the documents back, in order; under quiet settings there are none.  The lines
that are no JSON are the complaints, in order; so every line is a document exactly if all
names of the conversation are known. -/
theorem run_json {settings : Settings} (inJson : settings.format = .json) (terminal : Bool)
    (command : Command) (input : List UInt8) :
    let transcript := command.run settings terminal input
    (transcript.bytes = transcript.lines.flatMap (fun line => line.toUTF8.toList ++ [10]) ∧
        ∀ line ∈ transcript.lines, 10 ∉ line.toUTF8.toList) ∧
      transcript.lines.filterMap Json.read? =
        (if settings.isQuiet then [] else command.documents input) ∧
      transcript.lines.filter (fun line => (Json.read? line).isNone) =
        (command.unknownNames input).map (fun name => (Failure.unknownButton name).message) ∧
      ((∀ line ∈ transcript.lines, ∃ document, Json.read? line = some document) ↔
        command.unknownNames input = []) := by
  intro transcript
  have printed : (Printer.ofSettings settings terminal).format = .json := inJson
  have divides := divides_transcript printed settings command input
  refine ⟨⟨?_, fun line written => ?_⟩, divides.documents, divides.others, ?_⟩
  · rw [Transcript.bytes]
    exact congrArg (List.flatMap · _) (funext lineBytes_eq)
  · exact newline_notMem_toUTF8 (newline_notMem_of_mem_lines inJson written)
  · have readable : ∀ line : String,
        (∃ document, Json.read? line = some document) ↔ ¬(Json.read? line).isNone = true := by
      intro line
      rw [← Option.isSome_iff_exists, Option.isNone_iff_eq_none, ← ne_eq, Option.isSome_iff_ne_none]
    rw [← List.map_eq_nil_iff, ← divides.others, List.filter_eq_nil_iff]
    exact forall₂_congr fun line _ => readable line

/-- One name that no button has. -/
theorem unknownNames_pow : repl.unknownNames "pow\n".toUTF8.toList = ["pow"] := by
  rw [unknownNames, converse_toUTF8]
  decide +kernel

theorem run_json_unknown_name :
    let settings : Settings := { format := .json }
    let transcript := repl.run settings false "pow\n".toUTF8.toList
    settings.format = .json ∧
      transcript.lines.filter (fun line => (Json.read? line).isNone) = ["Unknown button: pow"] := by
  intro settings transcript
  obtain ⟨-, -, complaints, -⟩ :=
    run_json (show settings.format = .json from rfl) false repl "pow\n".toUTF8.toList
  rw [unknownNames_pow] at complaints
  exact ⟨rfl, complaints⟩

/-- **Not every line that is written in JSON is a document.** -/
theorem not_all_lines_json :
    ¬∀ (settings : Settings) (terminal : Bool) (command : Command) (input : List UInt8),
      settings.format = .json → ∀ line ∈ (command.run settings terminal input).lines,
        ∃ document, Json.read? line = some document := by
  intro all
  have unknown : "pow" ∈ repl.unknownNames "pow\n".toUTF8.toList := by
    rw [unknownNames_pow]
    exact List.mem_singleton_self _
  obtain ⟨document, isDocument⟩ :=
    all { format := .json } false repl _ rfl _ (mem_lines_of_mem_unknownNames unknown)
  rw [Json.read?_unknownButton] at isDocument
  exact nomatch isDocument

end Command
end PocketCalculator
