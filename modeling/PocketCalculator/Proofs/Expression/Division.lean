import PocketCalculator.Proofs.Expression.Lexeme

/-!
# Dividing a text into lexemes

A division of a text goes through it from left to right: a gap in which no
lexeme starts, the longest lexeme at the end of the gap, and so on to a last gap.

**Every text has exactly one division, and the lexer finds it**
(`division_iff_scan`).  The tokens come one at a time: each call of `Token.next`
goes on where the one before stopped, leaves exactly the text after the lexeme
that it read, and after the last lexeme leaves nothing (`calls_divide`).
-/

set_option autoImplicit false

namespace PocketCalculator
namespace Token

/-- Whether no lexeme of `gap ++ rest` starts inside the gap. -/
def SilentGap (gap rest : List Char) : Prop :=
  ∀ position, position < gap.length → ¬ StartsLexeme ((gap ++ rest).drop position)

/-- The divisions of a text, given by the token of each lexeme and the text after
the lexeme. -/
inductive Division : List Char → List (Token × List Char) → Prop where
  | finish (gap : List Char) (silent : SilentGap gap []) : Division gap []
  | lexeme {gap lexeme rest text : List Char} {token : Token} {later : List (Token × List Char)}
      (split : text = gap ++ lexeme ++ rest) (silent : SilentGap gap (lexeme ++ rest))
      (longest : LongestLexeme (lexeme ++ rest) lexeme token rest)
      (division : Division rest later) :
      Division text ((token, rest) :: later)

theorem silentGap_nil (rest : List Char) : SilentGap [] rest := by
  intro position inside
  exact absurd inside (Nat.not_lt_zero position)

/-- A gap begins with a character at which no lexeme starts and is a gap after it. -/
theorem silentGap_cons {c : Char} {gap rest : List Char} :
    SilentGap (c :: gap) rest ↔ ¬ StartsLexeme (c :: (gap ++ rest)) ∧ SilentGap gap rest := by
  constructor
  · intro silent
    refine ⟨silent 0 (Nat.succ_pos _), ?_⟩
    intro position inside
    exact silent (position + 1) (Nat.succ_lt_succ inside)
  · rintro ⟨first, later⟩ position inside
    cases position with
    | zero => exact first
    | succ position => exact later position (Nat.lt_of_succ_lt_succ inside)

/-! ## One token -/

theorem lexemeAt?_eq_none_iff {text : List Char} :
    lexemeAt? text = none ↔ ¬ StartsLexeme text := by
  refine ⟨not_startsLexeme_of_lexemeAt?, ?_⟩
  intro silent
  cases read : lexemeAt? text with
  | none => rfl
  | some found => exact absurd (startsLexeme_of_lexemeAt? read) silent

/-- A gap is passed over. -/
theorem next_silentGap {gap rest : List Char} (silent : SilentGap gap rest) :
    next (gap ++ rest) = next rest := by
  induction gap with
  | nil => rfl
  | cons c gap ih =>
      obtain ⟨first, later⟩ := silentGap_cons.mp silent
      rw [List.cons_append, next, lexemeAt?_eq_none_iff.mpr first]
      exact ih later

/-- A lexeme at the front is read. -/
theorem next_of_lexemeAt? {text rest : List Char} {token : Token}
    (read : lexemeAt? text = some (token, rest)) : next text = (some token, rest) := by
  cases text with
  | nil => simp [lexemeAt?, numberAt?, Digits.run, operatorAt?] at read
  | cons c tail => rw [next, read]

/-- The longest lexeme after a gap is read. -/
theorem next_of_longestLexeme {gap lexeme rest : List Char} {token : Token}
    (silent : SilentGap gap (lexeme ++ rest))
    (longest : LongestLexeme (lexeme ++ rest) lexeme token rest) :
    next (gap ++ lexeme ++ rest) = (some token, rest) := by
  rw [List.append_assoc, next_silentGap silent]
  exact next_of_lexemeAt? longest.lexemeAt?_eq

/-- A token is read from the longest lexeme after a gap. -/
theorem division_of_next_some {text rest : List Char} {token : Token}
    (read : next text = (some token, rest)) :
    ∃ gap lexeme, text = gap ++ lexeme ++ rest ∧ SilentGap gap (lexeme ++ rest) ∧
      LongestLexeme (lexeme ++ rest) lexeme token rest := by
  induction text with
  | nil => simp [next] at read
  | cons c tail ih =>
      unfold next at read
      split at read
      · rename_i token' after found
        simp only [Prod.mk.injEq, Option.some.injEq] at read
        obtain ⟨rfl, rfl⟩ := read
        obtain ⟨lexeme, longest⟩ := longestLexeme_of_lexemeAt? found
        refine ⟨[], lexeme, longest.split, silentGap_nil _, ?_⟩
        rw [← longest.split]
        exact longest
      · rename_i silent
        obtain ⟨gap, lexeme, split, gapSilent, longest⟩ := ih read
        refine ⟨c :: gap, lexeme, congrArg (List.cons c) split, silentGap_cons.mpr ⟨?_, gapSilent⟩,
          longest⟩
        rw [← List.append_assoc, ← split]
        exact not_startsLexeme_of_lexemeAt? silent

/-- Without a token the whole text is a gap, and nothing is left of it. -/
theorem silentGap_of_next_none {text rest : List Char} (read : next text = (none, rest)) :
    SilentGap text [] ∧ rest = [] := by
  induction text with
  | nil =>
      simp only [next, Prod.mk.injEq, true_and] at read
      exact ⟨silentGap_nil [], read.symm⟩
  | cons c tail ih =>
      unfold next at read
      split at read
      · simp at read
      · rename_i silent
        obtain ⟨gapSilent, empty⟩ := ih read
        refine ⟨silentGap_cons.mpr ⟨?_, gapSilent⟩, empty⟩
        rw [List.append_nil]
        exact not_startsLexeme_of_lexemeAt? silent

/-! ## All tokens -/

theorem scan_of_next_none {text rest : List Char} (read : next text = (none, rest)) :
    scan text = [] := by
  rw [scan]
  split
  · rfl
  · rename_i found
    rw [read] at found
    simp at found

theorem scan_of_next_some {text rest : List Char} {token : Token}
    (read : next text = (some token, rest)) : scan text = (token, rest) :: scan rest := by
  rw [scan]
  split
  · rename_i found
    rw [read] at found
    simp at found
  · rename_i token' rest' found
    rw [read] at found
    simp only [Prod.mk.injEq, Option.some.injEq] at found
    obtain ⟨rfl, rfl⟩ := found
    rfl

theorem ofChars_of_next_some {text rest : List Char} {token : Token}
    (read : next text = (some token, rest)) : ofChars text = token :: ofChars rest := by
  rw [ofChars, scan_of_next_some read]
  rfl

/-- The next token and the text after it determine the tokens that follow. -/
theorem scan_congr {first second : List Char} (same : next first = next second) :
    scan first = scan second := by
  cases read : next second with
  | mk token? rest =>
      cases token? with
      | none => rw [scan_of_next_none (same.trans read), scan_of_next_none read]
      | some token => rw [scan_of_next_some (same.trans read), scan_of_next_some read]

/-- The lexer finds a division of every text. -/
theorem division_scan (text : List Char) : Division text (scan text) := by
  induction text using scan.induct with
  | case1 text rest read =>
      rw [scan_of_next_none read]
      exact .finish text (silentGap_of_next_none read).1
  | case2 text token rest read ih =>
      rw [scan_of_next_some read]
      obtain ⟨gap, lexeme, split, silent, longest⟩ := division_of_next_some read
      exact .lexeme split silent longest ih

/-- A text has no other division. -/
theorem Division.eq_scan {text : List Char} {pieces : List (Token × List Char)}
    (division : Division text pieces) : pieces = scan text := by
  induction division with
  | finish gap silent =>
      have read := next_silentGap silent
      rw [List.append_nil] at read
      exact (scan_of_next_none read).symm
  | lexeme split silent longest _ ih =>
      rw [split, scan_of_next_some (next_of_longestLexeme silent longest), ih]

/-- **The lexer finds the one division of a text.** -/
theorem division_iff_scan {text : List Char} {pieces : List (Token × List Char)} :
    Division text pieces ↔ pieces = scan text := by
  refine ⟨Division.eq_scan, ?_⟩
  rintro rfl
  exact division_scan text

/-! ## Calls -/

/-- The answer of the call of `next` with the given index and the text left after
it; each call goes on where the one before stopped. -/
def call (text : List Char) : Nat → Option Token × List Char
  | 0 => next text
  | index + 1 => next (call text index).2

/-- The first call aside, the calls are those on the text that it leaves. -/
theorem call_succ (text : List Char) (index : Nat) :
    call text (index + 1) = call (next text).2 index := by
  induction index with
  | zero => rfl
  | succ index ih =>
      rw [call, ih]
      rfl

theorem call_nil (index : Nat) : call [] index = (none, []) := by
  induction index with
  | zero => rfl
  | succ index ih =>
      rw [call, ih]
      rfl

/-- The calls give the tokens of the text in turn. -/
theorem call_of_lt {text : List Char} {index : Nat} (inside : index < (scan text).length) :
    call text index = (some (scan text)[index].1, (scan text)[index].2) := by
  induction text using scan.induct generalizing index with
  | case1 text rest read =>
      simp only [scan_of_next_none read, List.length_nil, Nat.not_lt_zero] at inside
  | case2 text token rest read ih =>
      simp only [scan_of_next_some read] at inside ⊢
      cases index with
      | zero => exact read
      | succ index =>
          rw [call_succ, read]
          exact ih (Nat.lt_of_succ_lt_succ inside)

/-- After the last token nothing is left, and every call gives nothing. -/
theorem call_of_length_le {text : List Char} {index : Nat}
    (past : (scan text).length ≤ index) : call text index = (none, []) := by
  induction text using scan.induct generalizing index with
  | case1 text rest read =>
      obtain ⟨_, rfl⟩ := silentGap_of_next_none read
      cases index with
      | zero => exact read
      | succ index => rw [call_succ, read, call_nil]
  | case2 text token rest read ih =>
      rw [scan_of_next_some read] at past
      cases index with
      | zero => exact absurd past (Nat.not_succ_le_zero _)
      | succ index =>
          rw [call_succ, read]
          exact ih (Nat.le_of_succ_le_succ past)

/-- A text left after a lexeme is an end of the text. -/
theorem Division.suffix {text : List Char} {pieces : List (Token × List Char)}
    (division : Division text pieces) : ∀ piece ∈ pieces, piece.2 <:+ text := by
  induction division with
  | finish gap silent =>
      intro piece member
      cases member
  | lexeme split silent longest division ih =>
      intro piece member
      rw [split]
      rcases List.mem_cons.mp member with rfl | later
      · exact List.suffix_append _ _
      · exact (ih piece later).trans (List.suffix_append _ _)

/-- Every lexeme leaves less of the text. -/
theorem Division.decreasing {text : List Char} {pieces : List (Token × List Char)}
    (division : Division text pieces) :
    (text :: pieces.map Prod.snd).Pairwise fun before after => after.length < before.length := by
  induction division with
  | finish gap silent => exact List.pairwise_singleton _ _
  | @lexeme gap lexeme rest text token later split silent longest division ih =>
      have shorter : rest.length < text.length := by
        have some_char := List.length_pos_iff.mpr longest.written.ne_nil
        rw [split]
        simp only [List.length_append]
        omega
      refine List.pairwise_cons.mpr ⟨?_, ih⟩
      intro after member
      rcases List.mem_cons.mp member with rfl | later
      · exact shorter
      · exact Nat.lt_trans ((List.pairwise_cons.mp ih).1 after later) shorter

/-- **The lexer accepts exactly its grammar by leftmost longest match.** A text
has one division.  The calls of `next` give the token of each lexeme and leave
the text after it, which is an end of the text and shorter than before.  After the
last lexeme nothing is left, and every call gives nothing. -/
theorem calls_divide (text : String) :
    ∃ pieces,
      (∀ other, Division text.toList other ↔ other = pieces) ∧
      ofString text = pieces.map Prod.fst ∧
      (∀ index (inside : index < pieces.length),
        call text.toList index = (some pieces[index].1, pieces[index].2)) ∧
      (∀ piece ∈ pieces, piece.2 <:+ text.toList) ∧
      ((text.toList :: pieces.map Prod.snd).Pairwise fun before after =>
        after.length < before.length) ∧
      ∀ index, pieces.length ≤ index → call text.toList index = (none, []) := by
  have division := division_scan text.toList
  refine ⟨scan text.toList, fun other => division_iff_scan, rfl, ?_, division.suffix,
    division.decreasing, ?_⟩
  · intro index inside
    exact call_of_lt inside
  · intro index past
    exact call_of_length_le past

end Token
end PocketCalculator
