import PocketCalculator.Proofs.Command.Delivery
import PocketCalculator.Proofs.Command.Replay

/-!
# Conversations do not look ahead

A conversation goes over the lines of its input in turn.  It is over at a word of farewell or
at a line that is no text (`LineReading.isLast`); then what follows makes no difference
(`Session.converse_over`), and until then it goes on from where it is
(`Session.converse_going_on`).

**What a conversation has written is never taken back by what follows, and once it is over
nothing that follows is looked at** (`Command.repl_causal`).
-/

set_option autoImplicit false

namespace PocketCalculator

/-! ## What a line is -/

/-- The bytes of a line are a text. -/
def IsText (line : List UInt8) : Prop := (String.fromUTF8? ⟨line.toArray⟩).isSome = true

/-- The bytes of a line are a text with a word of farewell between blanks. -/
def IsFarewell (line : List UInt8) : Prop :=
  ∃ text, String.fromUTF8? ⟨line.toArray⟩ = some text ∧ Text.trim text ∈ farewells

namespace LineReading

/-- Whether a conversation goes no further than a line. -/
def isLast : LineReading → Bool
  | unreadable => true
  | farewell => true
  | _ => false

theorem ofBytes_eq_unreadable_iff (line : List UInt8) :
    ofBytes line = unreadable ↔ ¬IsText line := by
  rw [ofBytes, IsText]
  cases String.fromUTF8? ⟨line.toArray⟩ with
  | none => exact iff_of_true rfl Bool.false_ne_true
  | some text =>
      refine iff_of_false ?_ (not_not_intro rfl)
      dsimp only
      split
      · exact LineReading.noConfusion
      · split <;> exact LineReading.noConfusion

theorem ofBytes_eq_farewell_iff (line : List UInt8) :
    ofBytes line = farewell ↔ IsFarewell line := by
  rw [ofBytes, IsFarewell]
  cases String.fromUTF8? ⟨line.toArray⟩ with
  | none =>
      refine iff_of_false LineReading.noConfusion ?_
      rintro ⟨text, absurdity, -⟩
      contradiction
  | some text =>
      have word : (∃ read, some text = some read ∧ Text.trim read ∈ farewells) ↔
          Text.trim text ∈ farewells := by
        simp only [Option.some.injEq, exists_eq_left']
      rw [word]
      dsimp only
      by_cases blank : Text.trim text = ""
      · rw [if_pos blank, blank]
        exact iff_of_false LineReading.noConfusion (by decide)
      · rw [if_neg blank]
        by_cases goes : Text.trim text ∈ farewells
        · rw [if_pos goes]
          exact iff_of_true rfl goes
        · rw [if_neg goes]
          exact iff_of_false LineReading.noConfusion goes

end LineReading

/-! ## Conversations over parts of an input -/

namespace Session

theorem ending_cons (session : Session) (exchange : Exchange) (rest : List Exchange) :
    session.ending (exchange :: rest) = exchange.session.ending rest := by
  rw [ending, ending, List.getLast?_cons]
  cases rest.getLast? <;> rfl

/-- **A conversation that is over does not look at what follows.** -/
theorem converse_over (session : Session) {first : List (List UInt8)} (second : List (List UInt8))
    (isOver : ∃ line ∈ first, (LineReading.ofBytes line).isLast = true) :
    session.converse (first ++ second) = session.converse first := by
  induction first generalizing session with
  | nil =>
      obtain ⟨line, member, -⟩ := isOver
      contradiction
  | cons line rest ih =>
      rw [List.cons_append, converse, converse]
      have later : (LineReading.ofBytes line).isLast = false →
          ∃ other ∈ rest, (LineReading.ofBytes other).isLast = true := by
        intro goesOn
        obtain ⟨other, member, isLast⟩ := isOver
        rcases List.mem_cons.mp member with rfl | inRest
        · exact absurd (goesOn.symm.trans isLast) Bool.false_ne_true
        · exact ⟨other, inRest, isLast⟩
      cases read : LineReading.ofBytes line with
      | unreadable => rfl
      | farewell => rfl
      | blank => exact ih session (later (by rw [read]; rfl))
      | buttons input =>
          simp only [ih (session.exchange input).session (later (by rw [read]; rfl))]

/-- **A conversation that is not over goes on from where it is.** -/
theorem converse_going_on (session : Session) {first : List (List UInt8)}
    (second : List (List UInt8))
    (goesOn : ∀ line ∈ first, (LineReading.ofBytes line).isLast = false) :
    session.converse (first ++ second) =
      let said := (session.converse first).1
      (said ++ ((session.ending said).converse second).1,
        ((session.ending said).converse second).2) := by
  induction first generalizing session with
  | nil => rfl
  | cons line rest ih =>
      obtain ⟨here, later⟩ := List.forall_mem_cons.mp goesOn
      rw [List.cons_append, converse, converse]
      -- The line is not the last, so it is blank or names buttons.
      cases read : LineReading.ofBytes line with
      | unreadable =>
          rw [read] at here
          contradiction
      | farewell =>
          rw [read] at here
          contradiction
      | blank => exact ih session later
      | buttons input =>
          simp only [ih (session.exchange input).session later, ending_cons]
          rfl

/-- What a conversation says is said first, whatever follows the lines. -/
theorem converse_prefix (session : Session) (first second : List (List UInt8)) :
    (session.converse first).1 <+: (session.converse (first ++ second)).1 := by
  by_cases isOver : ∃ line ∈ first, (LineReading.ofBytes line).isLast = true
  · simp only [session.converse_over second isOver, List.prefix_rfl]
  · have goesOn : ∀ line ∈ first, (LineReading.ofBytes line).isLast = false := by
      intro line member
      rw [← Bool.not_eq_true]
      exact fun isLast => isOver ⟨line, member, isLast⟩
    rw [session.converse_going_on second goesOn]
    exact List.prefix_append _ _

/-- A word of farewell ends a conversation without a failure if all lines before it are texts. -/
theorem converse_farewell (session : Session) {before : List (List UInt8)} {line : List UInt8}
    (after : List (List UInt8)) (texts : ∀ earlier ∈ before, IsText earlier)
    (farewell : IsFarewell line) : (session.converse (before ++ line :: after)).2 = none := by
  induction before generalizing session with
  | nil =>
      rw [List.nil_append, converse, (LineReading.ofBytes_eq_farewell_iff line).mpr farewell]
  | cons earlier rest ih =>
      obtain ⟨here, later⟩ := List.forall_mem_cons.mp texts
      rw [List.cons_append, converse]
      cases read : LineReading.ofBytes earlier with
      | unreadable => exact absurd here ((LineReading.ofBytes_eq_unreadable_iff earlier).mp read)
      | farewell => rfl
      | blank => exact ih session later
      | buttons input => exact ih (session.exchange input).session later

/-- A line that is no text ends a conversation with a failure, after what the lines before
it have said, if none of them is a word of farewell. -/
theorem converse_unreadable (session : Session) {before : List (List UInt8)} {line : List UInt8}
    (after : List (List UInt8)) (noFarewell : ∀ earlier ∈ before, ¬IsFarewell earlier)
    (noText : ¬IsText line) :
    session.converse (before ++ line :: after) =
      ((session.converse before).1, some (.inputOutput unreadableReason)) := by
  induction before generalizing session with
  | nil =>
      show session.converse (line :: after) = ([], some (.inputOutput unreadableReason))
      rw [converse, (LineReading.ofBytes_eq_unreadable_iff line).mpr noText]
  | cons earlier rest ih =>
      obtain ⟨here, later⟩ := List.forall_mem_cons.mp noFarewell
      rw [List.cons_append, converse, converse]
      cases read : LineReading.ofBytes earlier with
      | unreadable => rfl
      | farewell => exact absurd ((LineReading.ofBytes_eq_farewell_iff earlier).mp read) here
      | blank => exact ih session later
      | buttons input => simp only [ih (session.exchange input).session later]

end Session

/-! ## What a conversation writes -/

namespace Command

/-- On a sink with room for everything a conversation writes its answers. -/
theorem perform_repl (settings : Settings) (terminal : Bool) (input : List UInt8) :
    repl.perform settings terminal input {} =
      (Failure.result (Session.new.converse (splitLines input)).2 (),
        { kept := ((Session.new.converse (splitLines input)).1.flatMap
            (Exchange.answer (.ofSettings settings terminal) settings.isQuiet)).flatMap
              lineBytes }) :=
  emits_perform settings terminal repl input {}

/-- **A conversation is causal in its input.** Of an input whose last line is ended, what is
written does not depend on what follows, which can only add to it.  If a line of the input is
a word of farewell and all lines before it are texts, what follows makes no difference and the
conversation ends well.  If a line is no text and no line before it is a word of farewell,
what follows makes no difference either, the conversation fails for want of a text, and what
is written is what the lines before that line have to say. -/
theorem repl_causal {input : List UInt8} (ended : EndsLine input) (later : List UInt8)
    (settings : Settings) (terminal : Bool) :
    let output := fun input => (repl.perform settings terminal input {}).2.kept
    let ending := fun input => (repl.perform settings terminal input {}).1
    output input <+: output (input ++ later) ∧
      (∀ before line after, splitLines input = before ++ line :: after →
        IsFarewell line → (∀ earlier ∈ before, IsText earlier) →
          output (input ++ later) = output input ∧ ending (input ++ later) = ending input ∧
            ending input = .ok ()) ∧
      (∀ before line after, splitLines input = before ++ line :: after →
        ¬IsText line → (∀ earlier ∈ before, ¬IsFarewell earlier) →
          output (input ++ later) = output input ∧ ending (input ++ later) = ending input ∧
            ending input = .error (.inputOutput unreadableReason) ∧
              output input = output (joinLines before)) := by
  intro output ending
  have written : ∀ input, output input = ((Session.new.converse (splitLines input)).1.flatMap
      (Exchange.answer (.ofSettings settings terminal) settings.isQuiet)).flatMap lineBytes :=
    fun input => congrArg (·.2.kept) (perform_repl settings terminal input)
  have ends : ∀ input, ending input =
      Failure.result (Session.new.converse (splitLines input)).2 () :=
    fun input => congrArg Prod.fst (perform_repl settings terminal input)
  have settled : (∃ line ∈ splitLines input, (LineReading.ofBytes line).isLast = true) →
      output (input ++ later) = output input ∧ ending (input ++ later) = ending input := by
    intro isOver
    rw [written, written, ends, ends, splitLines_append ended, Session.converse_over _ _ isOver]
    exact ⟨rfl, rfl⟩
  refine ⟨?_, ?_, ?_⟩
  · rw [written, written, splitLines_append ended]
    obtain ⟨added, same⟩ :=
      Session.new.converse_prefix (splitLines input) (splitLines later)
    rw [← same, List.flatMap_append, List.flatMap_append]
    exact List.prefix_append _ _
  · intro before line after lines farewell texts
    have last : (LineReading.ofBytes line).isLast = true := by
      rw [(LineReading.ofBytes_eq_farewell_iff line).mpr farewell]
      rfl
    obtain ⟨sameOutput, sameEnding⟩ := settled ⟨line, by simp [lines], last⟩
    refine ⟨sameOutput, sameEnding, ?_⟩
    rw [ends, lines, Session.converse_farewell _ after texts farewell]
    rfl
  · intro before line after lines noText noFarewell
    have last : (LineReading.ofBytes line).isLast = true := by
      rw [(LineReading.ofBytes_eq_unreadable_iff line).mpr noText]
      rfl
    obtain ⟨sameOutput, sameEnding⟩ := settled ⟨line, by simp [lines], last⟩
    have whole : ∀ earlier ∈ before, 10 ∉ earlier := by
      intro earlier member
      exact newline_notMem_of_mem_splitLines (by rw [lines]; exact List.mem_append_left _ member)
    have stopped := Session.new.converse_unreadable after noFarewell noText
    refine ⟨sameOutput, sameEnding, ?_, ?_⟩
    · rw [ends, lines, stopped]
      rfl
    · rw [written, written, lines, stopped, splitLines_joinLines whole]

/-- After "7" and "quit" on lines of their own not even a byte that is no text is looked at. -/
theorem repl_causal_quit :
    let input : List UInt8 := [55, 10, 113, 117, 105, 116, 10]
    EndsLine input ∧
      (repl.perform {} false input {}).2.kept <+:
        (repl.perform {} false (input ++ [255]) {}).2.kept ∧
      (repl.perform {} false (input ++ [255]) {}).1 = .ok () := by
  intro input
  have ended : EndsLine input := by decide
  have lines : splitLines input = [[55]] ++ [113, 117, 105, 116] :: [] := by decide
  have farewell : IsFarewell [113, 117, 105, 116] :=
    ⟨"quit", Text.fromUTF8?_encoding "quit".toList, by decide⟩
  have texts : ∀ earlier ∈ [[55]], IsText earlier := by
    intro earlier member
    rw [List.mem_singleton.mp member]
    exact congrArg Option.isSome (Text.fromUTF8?_encoding "7".toList)
  obtain ⟨starts, afterFarewell, -⟩ := repl_causal ended [255] {} false
  obtain ⟨-, same, well⟩ := afterFarewell [[55]] _ [] lines farewell texts
  exact ⟨ended, starts, same.trans well⟩

end Command
end PocketCalculator
