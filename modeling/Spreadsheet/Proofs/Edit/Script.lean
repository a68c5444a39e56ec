import Spreadsheet.Proofs.Edit.Line

namespace Spreadsheet.Script

/-!
# Reading edit scripts

A script is read line by line, up to the first line that is neither skippable nor writes an edit. If
there is no such line, the edits of all lines are found in their order. Otherwise the script is
refused, with the number of that line, which counts the skipped lines too.
-/

/-! ## Bytes of texts -/

/-- The UTF-8 bytes of a text. -/
def encoded (text : List Char) : List UInt8 :=
  text.flatMap String.utf8EncodeChar

/-- Listing the bytes from one place on puts them behind those that have been listed. -/
theorem toList_loop
    (bytes : ByteArray)
    (place : Nat)
    (reversed : List UInt8) :
    ByteArray.toList.loop bytes place reversed =
      reversed.reverse ++ bytes.data.toList.drop place := by
  rw [ByteArray.toList.loop]
  by_cases inside : place < bytes.size
  · have inList : place < bytes.data.toList.length := inside
    have isByte : bytes.get! place = bytes.data.toList[place] := by
      rw [ByteArray.get!, getElem!_pos bytes.data place inside, Array.getElem_toList]
    rw [if_pos inside, toList_loop bytes (place + 1), List.drop_eq_getElem_cons inList, isByte]
    simp
  · have nothing : bytes.data.toList.drop place = [] :=
      List.drop_eq_nil_of_le (Nat.le_of_not_lt inside)
    rw [if_neg inside, nothing, List.append_nil]
termination_by bytes.size - place

theorem toList_toByteArray
    (bytes : List UInt8) :
    bytes.toByteArray.toList = bytes := by
  rw [ByteArray.toList, toList_loop, List.toList_data_toByteArray]
  rfl

/-- The bytes of a line are decoded as the text that they encode. -/
theorem decodeLine_encoded
    (text : List Char) :
    decodeLine (encoded text) = .ok text := by
  have isText : String.fromUTF8? (encoded text).toByteArray = some (String.ofList text) :=
    dif_pos ByteArray.isValidUTF8_utf8Encode
  rw [decodeLine, isText]
  exact congrArg Except.ok String.toList_ofList

/-- Bytes that encode no text are not decoded. -/
theorem decodeLine_of_not_encoded
    {bytes : List UInt8}
    (invalid : ∀ text, bytes ≠ encoded text) :
    decodeLine bytes = .error .invalidEncoding := by
  have noText : String.fromUTF8? bytes.toByteArray = none := by
    refine dif_neg ?_
    rintro ⟨text, same⟩
    exact invalid text (List.toByteArray_inj.mp same)
  rw [decodeLine, noText]

/-- The byte of a line feed is in no other character. -/
theorem lineFeed_not_mem_utf8EncodeChar
    {character : Char}
    (other : character ≠ '\n') :
    lineFeed ∉ String.utf8EncodeChar character := by
  have notTen : character.toNat ≠ 10 := fun same => other (Char.toNat_inj.mp same)
  have sameValue : character.val.toNat = character.toNat := rfl
  simp only [String.utf8EncodeChar, sameValue]
  -- Of the four lengths, all but the first have only bytes of 128 and more.
  split
  · simp [lineFeed, ← UInt8.toNat_inj]
    omega
  · split
    · simp [lineFeed, ← UInt8.toNat_inj]
      omega
    · split
      · simp [lineFeed, ← UInt8.toNat_inj]
        omega
      · simp [lineFeed, ← UInt8.toNat_inj]
        omega

theorem lineFeed_not_mem_encoded
    {text : List Char}
    (oneLine : '\n' ∉ text) :
    lineFeed ∉ encoded text := by
  intro member
  obtain ⟨character, inText, inBytes⟩ := List.mem_flatMap.mp member
  exact lineFeed_not_mem_utf8EncodeChar (fun same => oneLine (same ▸ inText)) inBytes

/-! ## Lines of bytes -/

/-- Bytes without a line feed go in front of the first of the lines that follow. -/
theorem foldr_consByte
    {line : List UInt8}
    (oneLine : lineFeed ∉ line)
    (first : List UInt8)
    (later : List (List UInt8)) :
    line.foldr consByte (first :: later) = (line ++ first) :: later := by
  induction line with
  | nil =>
      rfl
  | cons byte rest inductionHypothesis =>
      obtain ⟨notFeed, restOneLine⟩ := List.ne_and_not_mem_of_not_mem_cons oneLine
      rw [List.foldr_cons, inductionHypothesis restOneLine, consByte,
        if_neg (by simpa using Ne.symm notFeed)]
      rfl

theorem lines_of_one
    {line : List UInt8}
    (oneLine : lineFeed ∉ line) :
    lines line = [line] := by
  rw [lines, foldr_consByte oneLine, List.append_nil]

/-- A line feed ends a line. -/
theorem lines_append_lineFeed
    {line : List UInt8}
    (oneLine : lineFeed ∉ line)
    (later : List UInt8) :
    lines (line ++ lineFeed :: later) = line :: lines later := by
  have ends : consByte lineFeed (lines later) = [] :: lines later := rfl
  rw [lines, List.foldr_append, List.foldr_cons]
  rw [lines] at ends
  rw [ends, foldr_consByte oneLine, List.append_nil, lines]

/-- A line is followed by a line feed, or by nothing. -/
theorem exists_lines_of_line
    {line rest : List UInt8}
    (oneLine : lineFeed ∉ line)
    (ends : rest = [] ∨ ∃ later, rest = lineFeed :: later) :
    ∃ after, lines (line ++ rest) = line :: after := by
  rcases ends with rfl | ⟨later, rfl⟩
  · rw [List.append_nil, lines_of_one oneLine]
    exact ⟨[], rfl⟩
  · exact ⟨_, lines_append_lineFeed oneLine later⟩

/-! ## Texts of scripts -/

/-- How a line ends. -/
inductive LineEnd where
  | lineFeed
  | carriageReturnLineFeed
  deriving Repr, DecidableEq

/-- What stands before the line feed at the end of a line. -/
def LineEnd.beforeLineFeed : LineEnd → List Char
  | .lineFeed => []
  | .carriageReturnLineFeed => ['\r']

/-- A line and what stands before the line feed at its end. -/
def endedLine (line : List Char × LineEnd) : List Char :=
  line.1 ++ line.2.beforeLineFeed

/-- The text of lines with their ends. -/
def endedText (ended : List (List Char × LineEnd)) : List Char :=
  ended.flatMap fun line => endedLine line ++ ['\n']

theorem isBlankText_beforeLineFeed
    (lineEnd : LineEnd) :
    Text.IsBlankText lineEnd.beforeLineFeed := by
  cases lineEnd with
  | lineFeed =>
      exact fun _ member => absurd member List.not_mem_nil
  | carriageReturnLineFeed =>
      exact Text.isBlankText_singleton.mpr (by decide)

theorem lineFeed_not_mem_endedLine
    {line : List Char × LineEnd}
    (oneLine : '\n' ∉ line.1) :
    lineFeed ∉ encoded (endedLine line) := by
  apply lineFeed_not_mem_encoded
  obtain ⟨text, lineEnd⟩ := line
  cases lineEnd <;> simpa [endedLine, LineEnd.beforeLineFeed] using oneLine

theorem encoded_append
    (first second : List Char) :
    encoded (first ++ second) = encoded first ++ encoded second :=
  List.flatMap_append

/-- The lines of bytes of ended lines and of what follows them. -/
theorem lines_encoded_endedText_append
    {ended : List (List Char × LineEnd)}
    (oneLine : ∀ line ∈ ended, '\n' ∉ line.1)
    (later : List UInt8) :
    lines (encoded (endedText ended) ++ later) =
      (ended.map endedLine).map encoded ++ lines later := by
  induction ended with
  | nil =>
      rfl
  | cons line rest inductionHypothesis =>
      obtain ⟨lineOneLine, restOneLine⟩ := List.forall_mem_cons.mp oneLine
      have split :
          encoded (endedText (line :: rest)) ++ later =
            encoded (endedLine line) ++ lineFeed :: (encoded (endedText rest) ++ later) := by
        rw [endedText, List.flatMap_cons, encoded_append, encoded_append, List.append_assoc,
          List.append_assoc]
        rfl
      rw [split, lines_append_lineFeed (lineFeed_not_mem_endedLine lineOneLine),
        inductionHypothesis restOneLine]
      rfl

/-- The bytes of a line of text with its end, if it has one. -/
theorem exists_lines_of_text
    {line : List Char}
    (oneLine : '\n' ∉ line)
    {rest : List UInt8}
    (ends :
      rest = [] ∨ ∃ (lineEnd : LineEnd) (later : List UInt8),
        rest = encoded lineEnd.beforeLineFeed ++ lineFeed :: later) :
    ∃ blanks, Text.IsBlankText blanks ∧
      ∃ after, lines (encoded line ++ rest) = encoded (line ++ blanks) :: after := by
  rcases ends with rfl | ⟨lineEnd, later, rfl⟩
  · refine ⟨[], fun _ member => absurd member List.not_mem_nil, ?_⟩
    rw [List.append_nil line]
    exact exists_lines_of_line (lineFeed_not_mem_encoded oneLine) (Or.inl rfl)
  · refine ⟨_, isBlankText_beforeLineFeed lineEnd, ?_⟩
    have wholeOneLine : lineFeed ∉ encoded (endedLine (line, lineEnd)) :=
      lineFeed_not_mem_endedLine oneLine
    rw [← List.append_assoc, ← encoded_append]
    exact exists_lines_of_line wholeOneLine (Or.inr ⟨later, rfl⟩)

/-! ## Reading one line -/

/-- What is read from a line depends on the trimmed line alone. -/
theorem readLine_encoded
    (number : Nat)
    (line : List Char) :
    readLine number (encoded line) =
      if isSkipped (Text.trim line) then
        .ok none
      else
        ((Edit.parseCharacters (Text.trim line)).mapError (.invalidLine number)).map some := by
  rw [readLine, decodeLine_encoded]
  change (if isSkipped (Text.trim line) then _ else _) = _
  split
  · rfl
  · cases Edit.parseCharacters (Text.trim line) <;> rfl

theorem readLine_of_isSkippable
    (number : Nat)
    {line : List Char}
    (skippable : IsSkippable line) :
    readLine number (encoded line) = .ok none := by
  rw [readLine_encoded, if_pos (isSkipped_trim_iff.mpr skippable)]

theorem readLine_of_writes
    (number : Nat)
    {line : List Char}
    {edit : Edit}
    (writes : Writes line edit) :
    readLine number (encoded line) = .ok (some edit) := by
  have notSkipped := mt isSkipped_trim_iff.mp (not_isSkippable_of_writes writes)
  rw [readLine_encoded, if_neg notSkipped, parseCharacters_of_writes writes]
  rfl

/-- A line that is neither skippable nor writes an edit is refused with its number. -/
theorem exists_readLine_error
    (number : Nat)
    {line : List Char}
    (notSkippable : ¬ IsSkippable line)
    (noEdit : ∀ edit, ¬ Writes line edit) :
    ∃ cause, readLine number (encoded line) = .error (.invalidLine number cause) := by
  rw [readLine_encoded, if_neg (mt isSkipped_trim_iff.mp notSkippable)]
  cases read : Edit.parseCharacters (Text.trim line) with
  | ok edit =>
      exact absurd (writes_of_parseCharacters read) (noEdit edit)
  | error cause =>
      exact ⟨cause, rfl⟩

/-! ## Reading all lines -/

/-- The lines hold the edits in their order, one in each line that is not skippable. -/
inductive Hold : List (List Char) → List Edit → Prop where
  | nil : Hold [] []
  | skip {line : List Char} {later : List (List Char)} {edits : List Edit} :
      IsSkippable line →
      Hold later edits →
      Hold (line :: later) edits
  | edit {line : List Char} {later : List (List Char)} {edit : Edit} {edits : List Edit} :
      Writes line edit →
      Hold later edits →
      Hold (line :: later) (edit :: edits)

theorem isSkippable_append_iff
    (line : List Char)
    {blanks : List Char}
    (blank : Text.IsBlankText blanks) :
    IsSkippable (line ++ blanks) ↔ IsSkippable line := by
  rw [← isSkipped_trim_iff, ← isSkipped_trim_iff, Text.trim_append_of_isBlankText _ blank]

theorem writes_append_iff
    (line : List Char)
    {blanks : List Char}
    (blank : Text.IsBlankText blanks)
    {edit : Edit} :
    Writes (line ++ blanks) edit ↔ Writes line edit := by
  rw [writes_iff, writes_iff, Text.trim_append_of_isBlankText _ blank]

/-- Lines that hold edits are read, and then the lines behind them with the numbers that follow. -/
theorem readLines_append_of_hold
    (number : Nat)
    {texts : List (List Char)}
    {edits : List Edit}
    (hold : Hold texts edits)
    (later : List (List UInt8)) :
    readLines number (texts.map encoded ++ later) =
      (readLines (number + texts.length) later).map (edits ++ ·) := by
  induction hold generalizing number with
  | nil =>
      cases read : readLines number later <;> simp [read, Except.map]
  | skip skippable _ inductionHypothesis =>
      rw [List.map_cons, List.cons_append, readLines, readLine_of_isSkippable number skippable,
        inductionHypothesis, List.length_cons, Nat.add_assoc, Nat.add_comm 1]
      cases readLines _ later <;> rfl
  | edit writes _ inductionHypothesis =>
      rw [List.map_cons, List.cons_append, readLines, readLine_of_writes number writes,
        inductionHypothesis, List.length_cons, Nat.add_assoc, Nat.add_comm 1]
      cases readLines _ later <;> rfl

/-- A line that is refused decides the error, whatever stands behind it. -/
theorem readLines_append_of_readLine_error
    (number : Nat)
    {texts : List (List Char)}
    {edits : List Edit}
    (hold : Hold texts edits)
    {line : List UInt8}
    {cause : ScriptError}
    (refused : readLine (number + texts.length) line = .error cause)
    (later : List (List UInt8)) :
    readLines number (texts.map encoded ++ line :: later) = .error cause := by
  rw [readLines_append_of_hold number hold, readLines, refused]
  rfl

/-- The line ends do not matter for the edits that lines hold. -/
theorem Hold.with_ends
    {ended : List (List Char × LineEnd)}
    {later : List (List Char)}
    {edits : List Edit}
    (hold : Hold (ended.map Prod.fst ++ later) edits) :
    Hold (ended.map endedLine ++ later) edits := by
  induction ended generalizing edits with
  | nil =>
      exact hold
  | cons line rest inductionHypothesis =>
      have endBlank := isBlankText_beforeLineFeed line.2
      cases hold with
      | skip skippable laterHold =>
          exact .skip ((isSkippable_append_iff line.1 endBlank).mpr skippable)
            (inductionHypothesis laterHold)
      | edit writes laterHold =>
          exact .edit ((writes_append_iff line.1 endBlank).mpr writes)
            (inductionHypothesis laterHold)

/-- Lines of which each is skippable or writes an edit hold some edits. -/
theorem exists_hold
    {texts : List (List Char)}
    (wellFormed : ∀ text ∈ texts, IsSkippable text ∨ ∃ edit, Writes text edit) :
    ∃ edits, Hold texts edits := by
  induction texts with
  | nil =>
      exact ⟨[], .nil⟩
  | cons text later inductionHypothesis =>
      obtain ⟨textWellFormed, laterWellFormed⟩ := List.forall_mem_cons.mp wellFormed
      obtain ⟨edits, hold⟩ := inductionHypothesis laterWellFormed
      rcases textWellFormed with skippable | ⟨edit, writes⟩
      · exact ⟨edits, .skip skippable hold⟩
      · exact ⟨edit :: edits, .edit writes hold⟩

/-- After lines that are in order, the first line that is refused decides the error. -/
theorem read_of_readLine_error
    {ended : List (List Char × LineEnd)}
    (oneLine : ∀ earlier ∈ ended, '\n' ∉ earlier.1)
    (wellFormed : ∀ earlier ∈ ended, IsSkippable earlier.1 ∨ ∃ edit, Writes earlier.1 edit)
    {rest line : List UInt8}
    {after : List (List UInt8)}
    (isLine : lines rest = line :: after)
    {cause : ScriptError}
    (refused : readLine (ended.length + 1) line = .error cause) :
    read (encoded (endedText ended) ++ rest).toByteArray = .error cause := by
  obtain ⟨edits, hold⟩ := exists_hold (List.forall_mem_map.mpr wellFormed)
  rw [← List.append_nil (ended.map Prod.fst)] at hold
  have endedHold := hold.with_ends
  rw [List.append_nil] at endedHold
  rw [read, toList_toByteArray, lines_encoded_endedText_append oneLine, isLine]
  apply readLines_append_of_readLine_error 1 endedHold
  rwa [List.length_map, Nat.add_comm]

/--
A script of lines that are skippable or write edits, ended by line feeds with or without carriage
returns, is read as the list of the edits. In any other script the first line that is neither
skippable nor writes an edit decides: if it is valid UTF-8, the error gives its number, counted from
one with the skipped lines, and otherwise the error is about the encoding. The text behind the last
line end is a line too, and may be empty.
-/
theorem script_is_read_up_to_first_bad_line :
    (∀ (ended : List (List Char × LineEnd)) (last : List Char) (edits : List Edit),
      (∀ line ∈ ended, '\n' ∉ line.1) → '\n' ∉ last →
      Hold (ended.map Prod.fst ++ [last]) edits →
        read (String.ofList (endedText ended ++ last)).toUTF8 = .ok edits) ∧
    (∀ (ended : List (List Char × LineEnd)) (line : List Char) (rest : List UInt8),
      (∀ earlier ∈ ended, '\n' ∉ earlier.1) →
      (∀ earlier ∈ ended, IsSkippable earlier.1 ∨ ∃ edit, Writes earlier.1 edit) →
      '\n' ∉ line → ¬ IsSkippable line → (∀ edit, ¬ Writes line edit) →
      (rest = [] ∨ ∃ (lineEnd : LineEnd) (later : List UInt8),
        rest = encoded lineEnd.beforeLineFeed ++ lineFeed :: later) →
        ∃ cause,
          read (encoded (endedText ended) ++ (encoded line ++ rest)).toByteArray =
            .error (.invalidLine (ended.length + 1) cause)) ∧
    (∀ (ended : List (List Char × LineEnd)) (line rest : List UInt8),
      (∀ earlier ∈ ended, '\n' ∉ earlier.1) →
      (∀ earlier ∈ ended, IsSkippable earlier.1 ∨ ∃ edit, Writes earlier.1 edit) →
      lineFeed ∉ line → (∀ text, line ≠ encoded text) →
      (rest = [] ∨ ∃ later, rest = lineFeed :: later) →
        read (encoded (endedText ended) ++ (line ++ rest)).toByteArray =
          .error .invalidEncoding) := by
  refine ⟨?_, ?_, ?_⟩
  · intro ended last edits oneLine lastOneLine hold
    have bytes : (String.ofList (endedText ended ++ last)).toUTF8 =
        (encoded (endedText ended) ++ encoded last).toByteArray := by
      rw [String.toUTF8_eq_toByteArray, String.toByteArray_ofList, ← encoded_append]
      rfl
    have texts : (ended.map endedLine).map encoded ++ [encoded last] =
        (ended.map endedLine ++ [last]).map encoded ++ [] := by
      simp
    rw [bytes, read, toList_toByteArray, lines_encoded_endedText_append oneLine,
      lines_of_one (lineFeed_not_mem_encoded lastOneLine), texts,
      readLines_append_of_hold 1 hold.with_ends, readLines, Except.map, List.append_nil]
  · intro ended line rest oneLine wellFormed lineOneLine notSkippable noEdit follows
    obtain ⟨blanks, blank, after, isLine⟩ := exists_lines_of_text lineOneLine follows
    obtain ⟨cause, refused⟩ := exists_readLine_error (ended.length + 1)
      (mt (isSkippable_append_iff line blank).mp notSkippable)
      (fun edit => mt (writes_append_iff line blank).mp (noEdit edit))
    exact ⟨cause, read_of_readLine_error oneLine wellFormed isLine refused⟩
  · intro ended line rest oneLine wellFormed lineOneLine invalid follows
    obtain ⟨after, isLine⟩ := exists_lines_of_line lineOneLine follows
    apply read_of_readLine_error oneLine wellFormed isLine
    rw [readLine, decodeLine_of_not_encoded invalid]
    rfl

/-- A comment ended by a carriage return too, an empty line, and an edit with blanks around it. -/
def noteLines : List (List Char × LineEnd) :=
  [("# B2: 1".toList, .carriageReturnLineFeed), ([], .lineFeed),
    ("\t B2 :\u3000A1 : #1 ".toList, .lineFeed)]

/-- Behind these lines is an edit with no formula, a line with no colon, or a byte that is no text. -/
theorem noteLines_are_read :
    read (String.ofList (endedText noteLines ++ "A00:".toList)).toUTF8 =
        .ok [⟨⟨2, 1, one_lt_columnLimit⟩, "A1 : #1"⟩, ⟨⟨0, 0, zero_lt_columnLimit⟩, ""⟩] ∧
      (∃ cause,
        read (encoded (endedText noteLines) ++
            (encoded "A0 1".toList ++ [lineFeed, 0xff])).toByteArray =
          .error (.invalidLine 4 cause)) ∧
      read (encoded (endedText noteLines) ++ ([0xff] ++ [])).toByteArray =
        .error .invalidEncoding := by
  obtain ⟨holds, firstBad, undecodable⟩ := script_is_read_up_to_first_bad_line
  have oneLine : ∀ line ∈ noteLines, '\n' ∉ line.1 := by decide
  have comment : IsSkippable "# B2: 1".toList := isSkipped_trim_iff.mp rfl
  have blank : IsSkippable [] := isSkipped_trim_iff.mp rfl
  have edit : Writes "\t B2 :\u3000A1 : #1 ".toList ⟨⟨2, 1, one_lt_columnLimit⟩, "A1 : #1"⟩ :=
    writes_of_parseCharacters rfl
  have cleared : Writes "A00:".toList ⟨⟨0, 0, zero_lt_columnLimit⟩, ""⟩ :=
    writes_of_parseCharacters rfl
  have wellFormed : ∀ line ∈ noteLines, IsSkippable line.1 ∨ ∃ edit, Writes line.1 edit := by
    simp only [noteLines, List.forall_mem_cons]
    exact ⟨Or.inl comment, Or.inl blank, Or.inr ⟨_, edit⟩,
      fun _ member => absurd member List.not_mem_nil⟩
  refine ⟨?_, ?_, ?_⟩
  · exact holds noteLines _ _ oneLine (by decide)
      (.skip comment (.skip blank (.edit edit (.edit cleared .nil))))
  · have noColon :
        Edit.parseCharacters (Text.trim "A0 1".toList) = .error (.noColon "A0 1") := rfl
    refine firstBad noteLines _ _ oneLine wellFormed (by decide)
      (mt isSkipped_trim_iff.mpr (by decide)) ?_ (Or.inr ⟨.lineFeed, [0xff], rfl⟩)
    intro edit writes
    rw [writes_iff, noColon] at writes
    contradiction
  · refine undecodable noteLines _ _ oneLine wellFormed (by decide) ?_ (Or.inl rfl)
    intro text same
    have valid : ByteArray.IsValidUTF8 [0xff].toByteArray := ⟨text, congrArg List.toByteArray same⟩
    exact absurd (valid.isUTF8FirstByte_getElem_zero (by decide)) (by decide)

end Spreadsheet.Script
