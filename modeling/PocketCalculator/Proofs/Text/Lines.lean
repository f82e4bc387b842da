import PocketCalculator.Command.Session

/-!
# Lines of bytes and lines of text

An input is divided into lines at its newline bytes, before anything of it is read as
text.  No character but the newline has that byte in its encoding
(`newline_mem_encoding_iff`), so **the lines of an encoded text are the encodings of its
lines** (`splitOn_encoding`).

An input whose last line is ended can be followed by anything: its lines stay what they are,
and the lines of what follows come after them (`splitLines_append`).

The lines of an input are the parts between its newlines, without an empty part at the
end.  That part would be blank, so a conversation is the same with it
(`Session.converse_splitLines`).
-/

set_option autoImplicit false

namespace PocketCalculator

/-! ## Encoded text -/

namespace Text

/-- The bytes that encode a text. -/
def encoding (text : List Char) : List UInt8 := text.flatMap String.utf8EncodeChar

theorem encoding_cons (c : Char) (rest : List Char) :
    encoding (c :: rest) = String.utf8EncodeChar c ++ encoding rest := List.flatMap_cons

/-- The bytes of an array from a place on are listed after those already taken. -/
theorem toList_loop (bytes : ByteArray) (start : Nat) (taken : List UInt8) :
    ByteArray.toList.loop bytes start taken = taken.reverse ++ bytes.data.toList.drop start := by
  fun_induction ByteArray.toList.loop bytes start taken with
  | case1 start taken inside ih =>
      have bound : start < bytes.data.toList.length := by simpa using inside
      have byte : bytes.get! start = bytes.data.toList[start] := by
        rw [ByteArray.get!, Array.getElem_toList]
        exact getElem!_pos bytes.data start bound
      rw [ih, List.drop_eq_getElem_cons bound, byte, List.reverse_cons, List.append_assoc,
        List.singleton_append]
  | case2 start taken outside =>
      have past : bytes.data.toList.length ≤ start := by simpa using outside
      rw [List.drop_eq_nil_of_le past, List.append_nil]

/-- The bytes of a string are the encoding of its characters. -/
theorem toList_toUTF8 (text : String) : text.toUTF8.toList = encoding text.toList := by
  have bytes : (String.ofList text.toList).toByteArray = (encoding text.toList).toByteArray :=
    String.toByteArray_ofList
  rw [String.ofList_toList] at bytes
  rw [String.toUTF8_eq_toByteArray, bytes, ByteArray.toList, toList_loop, List.data_toByteArray,
    List.drop_zero, List.reverse_nil, List.nil_append]

/-- An encoded text is read back. -/
theorem fromUTF8?_encoding (text : List Char) :
    String.fromUTF8? ⟨(encoding text).toArray⟩ = some (String.ofList text) := by
  have bytes : (⟨(encoding text).toArray⟩ : ByteArray) = (String.ofList text).toByteArray := by
    rw [String.toByteArray_ofList]
    exact congrArg ByteArray.mk List.data_toByteArray.symm
  rw [bytes, String.fromUTF8?, dif_pos (String.ofList text).isValidUTF8]
  rfl

/-- A byte of an encoded character is its number, or no ASCII character has it. -/
theorem toNat_of_mem_encoding {c : Char} {byte : UInt8} (member : byte ∈ String.utf8EncodeChar c) :
    byte.toNat = c.toNat ∨ 128 ≤ byte.toNat := by
  simp only [String.utf8EncodeChar] at member
  split at member
  · left
    rw [List.mem_singleton.mp member, UInt8.toNat_ofNat']
    exact Nat.mod_eq_of_lt (by omega)
  · -- The bytes of a longer encoding have their highest bit set.
    right
    split at member
    · simp only [List.mem_cons, List.not_mem_nil, or_false] at member
      rcases member with rfl | rfl <;> simp only [UInt8.toNat_ofNat'] <;> omega
    · split at member
      · simp only [List.mem_cons, List.not_mem_nil, or_false] at member
        rcases member with rfl | rfl | rfl <;> simp only [UInt8.toNat_ofNat'] <;> omega
      · simp only [List.mem_cons, List.not_mem_nil, or_false] at member
        rcases member with rfl | rfl | rfl | rfl <;> simp only [UInt8.toNat_ofNat'] <;> omega

/-- **Only the newline has its byte in its encoding.** -/
theorem newline_mem_encoding_iff (c : Char) : 10 ∈ String.utf8EncodeChar c ↔ c = '\n' := by
  constructor
  · intro member
    rcases toNat_of_mem_encoding member with same | large
    · exact Char.toNat_inj.mp same.symm
    · exact absurd large (by decide)
  · rintro rfl
    decide

/-- **An encoded text has as many newline bytes as the text has line breaks.** -/
theorem count_newline_encoding (text : List Char) : (encoding text).count 10 = text.count '\n' := by
  induction text with
  | nil => rfl
  | cons c rest ih =>
      rw [encoding_cons, List.count_append, ih, List.count_cons, Nat.add_comm]
      by_cases newline : c = '\n'
      · subst newline
        rfl
      · have absent : 10 ∉ String.utf8EncodeChar c := by rwa [newline_mem_encoding_iff]
        rw [List.count_eq_zero_of_not_mem absent, if_neg (by simpa using newline)]

/-! ## Parts between separators -/

/-- A row without the separator goes in front of the first part of what follows it. -/
theorem splitOn_append_of_notMem {α : Type} [BEq α] [LawfulBEq α] {separator : α}
    {first : List α} (absent : separator ∉ first) (rest : List α) :
    (first ++ rest).splitOn separator = (rest.splitOn separator).modifyHead (first ++ ·) := by
  induction first with
  | nil =>
      show rest.splitOn separator = (rest.splitOn separator).modifyHead id
      rw [List.modifyHead_id, id]
  | cons x first ih =>
      rw [List.mem_cons, not_or] at absent
      rw [List.cons_append, List.splitOn_cons_eq_if_modifyHead,
        if_neg (by simpa using Ne.symm absent.1), ih absent.2, List.modifyHead_modifyHead]
      rfl

/-- **The lines of an encoded text are the encodings of its lines.** -/
theorem splitOn_encoding (text : List Char) :
    (encoding text).splitOn 10 = (text.splitOn '\n').map encoding := by
  induction text with
  | nil => rfl
  | cons c rest ih =>
      rw [encoding_cons, List.splitOn_cons_eq_if_modifyHead]
      by_cases newline : c = '\n'
      · subst newline
        have byte : String.utf8EncodeChar '\n' = [10] := by decide
        rw [byte, List.singleton_append, List.splitOn_cons_eq_if_modifyHead, if_pos (by decide),
          if_pos (by decide), ih, List.map_cons]
        rfl
      · have absent : 10 ∉ String.utf8EncodeChar c := by rwa [newline_mem_encoding_iff]
        rw [splitOn_append_of_notMem absent, ih, if_neg (by simpa using newline)]
        obtain ⟨line, others, lines⟩ := List.exists_cons_of_ne_nil (List.splitOn_ne_nil '\n' rest)
        rw [lines, List.map_cons, List.modifyHead_cons, List.modifyHead_cons, List.map_cons,
          encoding_cons]

end Text

/-! ## Lines that are written -/

/-- A line is written as its encoding and a newline. -/
theorem lineBytes_eq (line : String) : lineBytes line = line.toUTF8.toList ++ [10] := by
  have newline : String.utf8EncodeChar '\n' = [10] := by decide
  rw [lineBytes, Text.toList_toUTF8, Text.toList_toUTF8, String.toList_append, Text.encoding,
    List.flatMap_append]
  show Text.encoding line.toList ++ Text.encoding ['\n'] = Text.encoding line.toList ++ [10]
  rw [Text.encoding_cons, newline]
  rfl

/-- A line without a line break has no newline among its bytes. -/
theorem newline_notMem_toUTF8 {line : String} (whole : '\n' ∉ line.toList) :
    10 ∉ line.toUTF8.toList := by
  rw [Text.toList_toUTF8, Text.encoding, List.mem_flatMap]
  rintro ⟨c, member, newline⟩
  rw [Text.newline_mem_encoding_iff] at newline
  exact whole (newline ▸ member)

/-- The newline bytes of a line are its line breaks and the one that ends it. -/
theorem count_newline_lineBytes (line : String) :
    (lineBytes line).count 10 = line.toList.count '\n' + 1 := by
  rw [lineBytes_eq, List.count_append, Text.toList_toUTF8, Text.count_newline_encoding]
  rfl

/-! ## Ended lines -/

/-- Bytes whose last line is ended by a newline. -/
def EndsLine (bytes : List UInt8) : Prop := bytes = [] ∨ bytes.getLast? = some 10

instance (bytes : List UInt8) : Decidable (EndsLine bytes) := inferInstanceAs (Decidable (_ ∨ _))

/-- Lines with their newlines. -/
def joinLines (lines : List (List UInt8)) : List UInt8 := lines.flatMap (· ++ [10])

theorem EndsLine.tail {byte : UInt8} {rest : List UInt8} (ends : EndsLine (byte :: rest)) :
    EndsLine rest := by
  cases rest with
  | nil => exact .inl rfl
  | cons next others =>
      rcases ends with absurdity | last
      · exact absurd absurdity (List.cons_ne_nil _ _)
      · rw [List.getLast?_cons_cons] at last
        exact .inr last

theorem splitLines_ne_nil {bytes : List UInt8} (nonempty : bytes ≠ []) : splitLines bytes ≠ [] := by
  cases bytes with
  | nil => contradiction
  | cons byte rest =>
      rw [splitLines]
      split
      · exact List.cons_ne_nil _ _
      · split <;> exact List.cons_ne_nil _ _

/-- **What follows an ended line is divided into lines of its own.** -/
theorem splitLines_append {first : List UInt8} (ends : EndsLine first) (second : List UInt8) :
    splitLines (first ++ second) = splitLines first ++ splitLines second := by
  induction first with
  | nil => rfl
  | cons byte rest ih =>
      rw [List.cons_append, splitLines, splitLines, ih ends.tail]
      by_cases newline : byte = 10
      · rw [if_pos newline, if_pos newline, List.cons_append]
      · have goesOn : rest ≠ [] := by
          rintro rfl
          rcases ends with absurdity | last
          · exact absurd absurdity (List.cons_ne_nil _ _)
          · exact newline (Option.some.inj last)
        obtain ⟨line, others, lines⟩ := List.exists_cons_of_ne_nil (splitLines_ne_nil goesOn)
        rw [if_neg newline, if_neg newline, lines]
        rfl

theorem newline_notMem_of_mem_splitLines {bytes line : List UInt8}
    (member : line ∈ splitLines bytes) : 10 ∉ line := by
  induction bytes generalizing line with
  | nil => contradiction
  | cons byte rest ih =>
      rw [splitLines] at member
      split at member
      · rcases List.mem_cons.mp member with rfl | later
        · exact List.not_mem_nil
        · exact ih later
      · rename_i other
        split at member
        · rw [List.mem_singleton.mp member, List.mem_singleton]
          exact Ne.symm other
        · rename_i head others lines
          rcases List.mem_cons.mp member with rfl | later
          · rw [List.mem_cons, not_or]
            exact ⟨Ne.symm other, ih (lines ▸ List.mem_cons_self)⟩
          · exact ih (lines ▸ List.mem_cons_of_mem head later)

theorem splitLines_line {line : List UInt8} (whole : 10 ∉ line) :
    splitLines (line ++ [10]) = [line] := by
  induction line with
  | nil => rfl
  | cons byte rest ih =>
      rw [List.mem_cons, not_or] at whole
      rw [List.cons_append, splitLines, if_neg (Ne.symm whole.1), ih whole.2]

/-- Lines that are joined are divided again. -/
theorem splitLines_joinLines {lines : List (List UInt8)} (whole : ∀ line ∈ lines, 10 ∉ line) :
    splitLines (joinLines lines) = lines := by
  induction lines with
  | nil => rfl
  | cons line rest ih =>
      obtain ⟨here, later⟩ := List.forall_mem_cons.mp whole
      have ends : EndsLine (line ++ [10]) := .inr List.getLast?_concat
      rw [joinLines, List.flatMap_cons, splitLines_append ends, splitLines_line here]
      exact congrArg (List.cons line) (ih later)

/-! ## Lines of a conversation -/

/-- The parts of an input between its newlines are its lines, and an empty part after the
last newline. -/
theorem splitOn_eq_splitLines (input : List UInt8) :
    input.splitOn 10 = splitLines input ∨ input.splitOn 10 = splitLines input ++ [[]] := by
  induction input with
  | nil => exact .inr rfl
  | cons byte rest ih =>
      rw [List.splitOn_cons_eq_if_modifyHead, splitLines]
      by_cases newline : byte = 10
      · rw [if_pos (by simpa using newline), if_pos newline]
        exact ih.imp (congrArg (List.cons [])) (congrArg (List.cons []))
      · rw [if_neg (by simpa using newline), if_neg newline]
        cases lines : splitLines rest with
        | nil =>
            rw [lines] at ih
            rcases ih with parts | parts
            · exact absurd parts (List.splitOn_ne_nil 10 rest)
            · exact .inl (by rw [parts]; rfl)
        | cons line others =>
            rw [lines] at ih
            rcases ih with parts | parts
            · exact .inl (by rw [parts]; rfl)
            · exact .inr (by rw [parts]; rfl)

/-- A line of text is read as what it is without blanks at its ends. -/
theorem LineReading.ofBytes_encoding (line : List Char) :
    ofBytes (Text.encoding line) =
      if Text.trim (String.ofList line) = "" then blank
      else if Text.trim (String.ofList line) ∈ farewells then farewell
      else buttons (Text.trim (String.ofList line)) := by
  rw [ofBytes, Text.fromUTF8?_encoding]

namespace Session

/-- A blank line at the end of a conversation changes nothing. -/
theorem converse_append_empty (session : Session) (lines : List (List UInt8)) :
    session.converse (lines ++ [[]]) = session.converse lines := by
  induction lines generalizing session with
  | nil =>
      have blank : LineReading.ofBytes [] = .blank := LineReading.ofBytes_encoding []
      show session.converse [[]] = session.converse []
      simp only [converse, blank]
  | cons line rest ih =>
      rw [List.cons_append, converse, converse]
      cases LineReading.ofBytes line with
      | unreadable => rfl
      | blank => exact ih session
      | farewell => rfl
      | buttons input => simp only [ih]

/-- **A conversation goes over the parts of the input between its newlines.** -/
theorem converse_splitLines (session : Session) (input : List UInt8) :
    session.converse (splitLines input) = session.converse (input.splitOn 10) := by
  rcases splitOn_eq_splitLines input with parts | parts
  · rw [parts]
  · rw [parts, converse_append_empty]

end Session
end PocketCalculator
