import Spreadsheet.View.Table

namespace Spreadsheet.View

/-!
# Reading tables back

A pipe is bare if no backslash stands directly before it. The bare pipes of a line of a table are
those around its cells, whatever the texts of the view are. So a table can be split into its lines
and cells again, and texts without line breaks are found in them as they were.
-/

/-! ## Bare pipes -/

/-- The character is a pipe, and no backslash stands directly before it. -/
def isBarePipe (before character : Char) : Bool :=
  character == '|' && before != '\\'

/-- The number of bare pipes in a text, given the character before it. -/
def barePipes
    (before : Char)
    (text : List Char) :
    Nat :=
  ((before :: text).zip text).countP fun pair => isBarePipe pair.1 pair.2

/-- The pieces of a text between its bare pipes, given the character before it. -/
def pieces : Char → List Char → List (List Char)
  | _, [] => [[]]
  | before, character :: later =>
    if isBarePipe before character then
      [] :: pieces character later
    else
      (pieces character later).modifyHead (character :: ·)

@[simp]
theorem barePipes_nil
    (before : Char) :
    barePipes before [] = 0 :=
  rfl

@[simp]
theorem barePipes_cons
    (before character : Char)
    (later : List Char) :
    barePipes before (character :: later) =
      (if isBarePipe before character then 1 else 0) + barePipes character later := by
  simp [barePipes, List.countP_cons, Nat.add_comm]

/-- Texts put together have the bare pipes of both, with the second one read after the first. -/
theorem barePipes_append
    (before : Char)
    (first second : List Char) :
    barePipes before (first ++ second) =
      barePipes before first + barePipes (first.getLastD before) second := by
  induction first generalizing before with
  | nil =>
      simp
  | cons character later inductionHypothesis =>
      simp only [List.cons_append, barePipes_cons, inductionHypothesis, List.getLastD_cons,
        Nat.add_assoc]

/-- Bare pipes cut a text into one piece more than there are pipes. -/
theorem length_pieces
    (before : Char)
    (text : List Char) :
    (pieces before text).length = barePipes before text + 1 := by
  induction text generalizing before with
  | nil =>
      rfl
  | cons character later inductionHypothesis =>
      rw [pieces, barePipes_cons]
      split <;> simp [inductionHypothesis, Nat.add_comm]

/-- A text without bare pipes is in front of the first piece of what follows it. -/
theorem pieces_append
    {before : Char}
    {text : List Char}
    (hasNone : barePipes before text = 0)
    (later : List Char) :
    pieces before (text ++ later) =
      (pieces (text.getLastD before) later).modifyHead (text ++ ·) := by
  induction text generalizing before with
  | nil =>
      exact (congrFun List.modifyHead_id _).symm
  | cons character rest inductionHypothesis =>
      rw [barePipes_cons, Nat.add_eq_zero_iff] at hasNone
      have isInside : isBarePipe before character = false := by
        simpa using hasNone.left
      rw [List.cons_append, pieces, if_neg (by simp [isInside]), inductionHypothesis hasNone.right,
        List.getLastD_cons, List.modifyHead_modifyHead]
      rfl

/-! ## Cells between pipes -/

/-- The text leaves the pipe before it and the one after it the only bare ones. -/
structure IsCell (text : List Char) : Prop where
  hasNone : barePipes '|' text = 0
  last_ne : text.getLastD '|' ≠ '\\'

/-- A line of cells, with a pipe in front and one after each of them. -/
def fenced (cells : List (List Char)) : List Char :=
  '|' :: cells.flatMap (· ++ ['|'])

/-- Behind a bare pipe the pieces are the cells, with nothing after the last pipe. -/
theorem pieces_after_pipe
    {cells : List (List Char)}
    (areCells : ∀ cell ∈ cells, IsCell cell) :
    pieces '|' (cells.flatMap (· ++ ['|'])) = cells ++ [[]] := by
  induction cells with
  | nil =>
      rfl
  | cons cell later inductionHypothesis =>
      obtain ⟨isCell, laterAreCells⟩ := List.forall_mem_cons.mp areCells
      have isBare : isBarePipe (cell.getLastD '|') '|' = true :=
        bne_iff_ne.mpr isCell.last_ne
      rw [List.flatMap_cons, List.append_assoc, pieces_append isCell.hasNone,
        List.singleton_append, pieces, if_pos isBare, inductionHypothesis laterAreCells]
      simp

/-- The pieces of a line of cells are the cells, with nothing on either side of them. -/
theorem pieces_fenced
    {cells : List (List Char)}
    (areCells : ∀ cell ∈ cells, IsCell cell) :
    pieces '\n' (fenced cells) = [] :: (cells ++ [[]]) := by
  rw [fenced, pieces, if_pos (by decide), pieces_after_pipe areCells]

/-- A line of cells has one bare pipe more than cells. -/
theorem barePipes_fenced
    {cells : List (List Char)}
    (areCells : ∀ cell ∈ cells, IsCell cell) :
    barePipes '\n' (fenced cells) = cells.length + 1 := by
  have count := length_pieces '\n' (fenced cells)
  rw [pieces_fenced areCells] at count
  simpa using count.symm

/-- A line of cells has no line feed if none of the cells has one. -/
theorem lineFeed_not_mem_fenced
    {cells : List (List Char)}
    (areFree : ∀ cell ∈ cells, '\n' ∉ cell) :
    '\n' ∉ fenced cells := by
  intro member
  simp only [fenced, List.mem_cons, List.mem_flatMap, List.mem_append] at member
  rcases member with isPipe | ⟨cell, isOne, inside | isPipe⟩
  · exact absurd isPipe (by decide)
  · exact areFree cell isOne inside
  · simp at isPipe

/-! ## Texts in cells -/

/-- How one character of a text is written in a table. -/
def tableCharacter : Char → List Char
  | '|' => ['\\', '|']
  | '\n' => [' ']
  | '\r' => []
  | character => [character]

/-- A character is a pipe or a line break, or it is written as it is. -/
theorem tableCharacter_cases
    (character : Char) :
    (character = '|' ∧ tableCharacter character = ['\\', '|']) ∨
    (character = '\n' ∧ tableCharacter character = [' ']) ∨
    (character = '\r' ∧ tableCharacter character = []) ∨
    (character ≠ '|' ∧ character ≠ '\n' ∧ character ≠ '\r' ∧
      tableCharacter character = [character]) := by
  unfold tableCharacter
  split <;> simp_all

/-- The replacements, made one after the other, do not get in each other's way. -/
theorem tableText_eq_flatMap
    (text : List Char) :
    tableText text = text.flatMap tableCharacter := by
  simp only [tableText, replaced, List.flatMap_assoc]
  congr 1
  funext character
  rcases tableCharacter_cases character with
    ⟨rfl, written⟩ | ⟨rfl, written⟩ | ⟨rfl, written⟩ | ⟨notPipe, notLineFeed, notReturn, written⟩
  · rw [written]
    rfl
  · rw [written]
    rfl
  · rw [written]
    rfl
  · simp [written, notPipe, notLineFeed, notReturn]

theorem tableText_cons
    (character : Char)
    (later : List Char) :
    tableText (character :: later) = tableCharacter character ++ tableText later := by
  rw [tableText_eq_flatMap, tableText_eq_flatMap, List.flatMap_cons]

/-- A written text has no bare pipe, whatever stands before it. -/
theorem barePipes_tableText
    (before : Char)
    (text : List Char) :
    barePipes before (tableText text) = 0 := by
  induction text generalizing before with
  | nil =>
      rfl
  | cons character later inductionHypothesis =>
      rw [tableText_cons, barePipes_append, inductionHypothesis]
      rcases tableCharacter_cases character with
        ⟨-, written⟩ | ⟨-, written⟩ | ⟨-, written⟩ | ⟨notPipe, -, -, written⟩ <;>
        simp [isBarePipe, *]

/-- A written text has no line feed. -/
theorem lineFeed_not_mem_tableText
    (text : List Char) :
    '\n' ∉ tableText text := by
  rw [tableText_eq_flatMap]
  intro member
  obtain ⟨character, -, inside⟩ := List.mem_flatMap.mp member
  rcases tableCharacter_cases character with
    ⟨-, written⟩ | ⟨-, written⟩ | ⟨-, written⟩ | ⟨-, notLineFeed, -, written⟩ <;>
    rw [written] at inside
  · simp at inside
  · simp at inside
  · simp at inside
  · exact notLineFeed (List.mem_singleton.mp inside).symm

/-- A text is written as it is if each of its characters is. -/
theorem tableText_eq_self
    {text : List Char}
    (isPlain : ∀ character ∈ text, tableCharacter character = [character]) :
    tableText text = text := by
  induction text with
  | nil =>
      rfl
  | cons character later inductionHypothesis =>
      obtain ⟨written, laterIsPlain⟩ := List.forall_mem_cons.mp isPlain
      rw [tableText_cons, written, inductionHypothesis laterIsPlain]
      rfl

/-- The text without the one backslash before each of its pipes. -/
def unescaped : List Char → List Char
  | [] => []
  | '\\' :: '|' :: later => '|' :: unescaped later
  | character :: later => character :: unescaped later

/-- A character that no pipe follows stays. -/
theorem unescaped_cons_of_ne
    (character : Char)
    {later : List Char}
    (notPipe : later.head? ≠ some '|') :
    unescaped (character :: later) = character :: unescaped later := by
  cases later with
  | nil =>
      simp [unescaped]
  | cons next rest =>
      rw [unescaped]
      simp_all

/-- A pipe in a written text never comes first. -/
theorem head?_tableText_ne
    (text : List Char) :
    (tableText text).head? ≠ some '|' := by
  induction text with
  | nil =>
      simp [tableText, replaced]
  | cons character later inductionHypothesis =>
      rw [tableText_cons]
      rcases tableCharacter_cases character with
        ⟨-, written⟩ | ⟨-, written⟩ | ⟨-, written⟩ | ⟨notPipe, -, -, written⟩ <;>
        rw [written]
      · simp
      · simp
      · exact inductionHypothesis
      · simpa using notPipe

/-- The text has no line breaks. -/
def IsOneLine (text : List Char) : Prop :=
  ∀ character ∈ text, character ≠ '\r' ∧ character ≠ '\n'

/-- Line breaks are all that is lost when a text is written. -/
theorem unescaped_tableText
    {text : List Char}
    (isOneLine : IsOneLine text) :
    unescaped (tableText text) = text := by
  induction text with
  | nil =>
      rfl
  | cons character later inductionHypothesis =>
      obtain ⟨⟨notReturn, notLineFeed⟩, laterIsOneLine⟩ := List.forall_mem_cons.mp isOneLine
      have laterReads := inductionHypothesis laterIsOneLine
      rw [tableText_cons]
      rcases tableCharacter_cases character with
        ⟨rfl, written⟩ | ⟨isLineFeed, -⟩ | ⟨isReturn, -⟩ | ⟨-, -, -, written⟩
      · rw [written, List.cons_append, List.singleton_append, unescaped, laterReads]
      · exact absurd isLineFeed notLineFeed
      · exact absurd isReturn notReturn
      · rw [written, List.singleton_append, unescaped_cons_of_ne _ (head?_tableText_ne later),
          laterReads]

/-! ## Rows of texts -/

/-- The text with a space on each side. -/
def padded (text : List Char) : List Char :=
  ' ' :: (text ++ [' '])

/-- The text between one space on each side. -/
def unpadded? : List Char → Option (List Char)
  | ' ' :: text => if text.getLast? = some ' ' then some text.dropLast else none
  | _ => none

/-- The spaces around a text come off again. -/
theorem unpadded?_padded
    (text : List Char) :
    unpadded? (padded text) = some text := by
  simp [unpadded?, padded]

/-- A line of texts, each in its cell. -/
def tableRow (texts : List (List Char)) : List Char :=
  fenced (texts.map fun text => padded (tableText text))

/-- Any written text can stand between pipes, with a space on each side. -/
theorem isCell_padded_tableText
    (text : List Char) :
    IsCell (padded (tableText text)) where
  hasNone := by
    simp [padded, barePipes_append, barePipes_tableText, isBarePipe]
  last_ne := by
    rw [padded, List.getLastD_cons, List.getLastD_concat]
    decide

/-- The cells of a row of texts are cells without line feeds. -/
theorem areCells_tableRow
    (texts : List (List Char)) :
    ∀ cell ∈ texts.map fun text => padded (tableText text), IsCell cell ∧ '\n' ∉ cell := by
  intro cell isOne
  obtain ⟨text, -, rfl⟩ := List.mem_map.mp isOne
  exact ⟨isCell_padded_tableText text, by simp [padded, lineFeed_not_mem_tableText]⟩

/-- The text in a cell. -/
def readCell? (cell : List Char) : Option (List Char) :=
  (unpadded? cell).map unescaped

/-- The texts in the cells of a line, which must begin and end with a bare pipe. -/
def readRow? (line : List Char) : Option (List (List Char)) :=
  match pieces '\n' line with
  | [] :: later => if later.getLast? = some [] then later.dropLast.mapM readCell? else none
  | _ => none

/-- Texts without line breaks are read from their cells. -/
theorem mapM_readCell?
    {texts : List (List Char)}
    (areOneLine : ∀ text ∈ texts, IsOneLine text) :
    (texts.map fun text => padded (tableText text)).mapM readCell? = some texts := by
  induction texts with
  | nil =>
      rfl
  | cons text later inductionHypothesis =>
      obtain ⟨isOneLine, laterAreOneLine⟩ := List.forall_mem_cons.mp areOneLine
      have reads : readCell? (padded (tableText text)) = some text := by
        rw [readCell?, unpadded?_padded, Option.map_some, unescaped_tableText isOneLine]
      simp [reads, inductionHypothesis laterAreOneLine]

/-- Texts without line breaks are read from their line. -/
theorem readRow?_tableRow
    {texts : List (List Char)}
    (areOneLine : ∀ text ∈ texts, IsOneLine text) :
    readRow? (tableRow texts) = some texts := by
  have isSplit := pieces_fenced fun cell isOne => (areCells_tableRow texts cell isOne).left
  rw [readRow?, tableRow, isSplit]
  simpa using mapM_readCell? areOneLine

/-! ## Lines of a table -/

theorem tableCell_eq
    (text : List Char) :
    tableCell text = padded text ++ ['|'] := by
  simp [tableCell, padded]

/-- The heading of a column is written as it is. -/
theorem tableCharacter_columnHeading
    (column : Nat) :
    tableCharacter (columnHeading column) = [columnHeading column] := by
  have letters :
      ∀ column, tableCharacter (columnLetter column) = [columnLetter column] := by
    decide
  unfold columnHeading columnLetter?
  split
  · exact letters _
  · rfl

theorem tableCharacter_of_isDigit
    {character : Char}
    (isDigit : character.isDigit = true) :
    tableCharacter character = [character] := by
  rcases tableCharacter_cases character with
    ⟨rfl, -⟩ | ⟨rfl, -⟩ | ⟨rfl, -⟩ | ⟨-, -, -, written⟩
  · exact absurd isDigit (by decide)
  · exact absurd isDigit (by decide)
  · exact absurd isDigit (by decide)
  · exact written

theorem tableText_writeNatural
    (value : Nat) :
    tableText (Decimal.writeNatural value) = Decimal.writeNatural value :=
  tableText_eq_self fun _ member =>
    tableCharacter_of_isDigit (Decimal.isDigit_of_mem_writeNatural member)

/-- The first line of a table is a row with a space and the headings of the columns. -/
theorem headingLine_eq_tableRow
    (view : View) :
    view.headingLine =
      tableRow ([' '] :: (List.range view.columns.toNat).map fun column =>
        [columnHeading column]) := by
  have written :
      ∀ column, tableText [columnHeading column] = [columnHeading column] := by
    intro column
    apply tableText_eq_self
    simpa using tableCharacter_columnHeading column
  have space : tableText [' '] = [' '] := by
    rfl
  simp [headingLine, tableRow, fenced, written, space, tableCell_eq, padded, List.flatMap_map]

/-- The second line of a table has three dashes in each cell. -/
theorem ruleLine_eq_fenced
    (view : View) :
    view.ruleLine =
      fenced (['-', '-', '-'] :: (List.range view.columns.toNat).map fun _ => ['-', '-', '-']) := by
  rw [ruleLine, fenced, List.flatMap_cons, List.flatMap_map]
  rfl

theorem isOneLine_writeNatural
    (value : Nat) :
    IsOneLine (Decimal.writeNatural value) := by
  intro character member
  have isDigit := Decimal.isDigit_of_mem_writeNatural member
  constructor <;> rintro rfl <;> exact absurd isDigit (by decide)

/-- The texts of a row. -/
def rowTexts
    (view : View)
    (row : Nat) :
    List (List Char) :=
  (List.range view.columns.toNat).map fun column =>
    (view.valueAt (UInt64.ofNat row) (UInt64.ofNat column)).text.toList

/-- The line of a row is a row with its number and its texts. -/
theorem rowLine_eq_tableRow
    (view : View)
    (row : Nat) :
    view.rowLine row = tableRow (Decimal.writeNatural row :: view.rowTexts row) := by
  simp [rowLine, rowTexts, tableRow, fenced, tableText_writeNatural, tableCell_eq, List.flatMap_map]

/-- Each line is a row of cells, and the cells have no line feeds. -/
theorem exists_cells_of_mem_tableLines
    {view : View}
    {line : List Char}
    (member : line ∈ view.tableLines) :
    ∃ cells, line = fenced cells ∧ cells.length = view.columns.toNat + 1 ∧
      ∀ cell ∈ cells, IsCell cell ∧ '\n' ∉ cell := by
  simp only [tableLines, List.mem_cons, List.mem_map] at member
  rcases member with rfl | rfl | ⟨row, -, rfl⟩
  · exact ⟨_, headingLine_eq_tableRow view, by simp, areCells_tableRow _⟩
  · have isCell : IsCell ['-', '-', '-'] :=
      ⟨by decide, by decide⟩
    exact ⟨_, ruleLine_eq_fenced view, by simp, by simp [isCell]⟩
  · exact ⟨_, rowLine_eq_tableRow view row, by simp [rowTexts], areCells_tableRow _⟩

/-- Lines with a line feed after each are split at these, with nothing after the last. -/
theorem splitOn_terminated
    {lines : List (List Char)}
    (areLines : ∀ line ∈ lines, '\n' ∉ line) :
    (lines.flatMap (· ++ ['\n'])).splitOn '\n' = lines ++ [[]] := by
  induction lines with
  | nil =>
      simp
  | cons line later inductionHypothesis =>
      obtain ⟨isLine, laterAreLines⟩ := List.forall_mem_cons.mp areLines
      rw [List.flatMap_cons, List.append_assoc, List.singleton_append,
        List.splitOn_append_cons_self, List.splitOn_eq_singleton isLine,
        inductionHypothesis laterAreLines]
      rfl

/--
A table is made of lines that end with a line feed each, two more than the view has rows, and each
line has two more bare pipes than the view has columns. If there are no line breaks in the texts of
a row, its line gives the number of the row and these texts back.
-/
theorem table_reads_back
    (view : View) :
    ∃ lines,
      view.table.toList.splitOn '\n' = lines ++ [[]] ∧
      lines.length = view.rows.toNat + 2 ∧
      (∀ line ∈ lines, barePipes '\n' line = view.columns.toNat + 2) ∧
      ∀ row < view.rows.toNat,
        (∀ text ∈ view.rowTexts row, IsOneLine text) →
        (lines[row + 2]?).bind readRow? =
          some (Decimal.writeNatural row :: view.rowTexts row) := by
  refine ⟨view.tableLines, ?_, ?_, ?_, ?_⟩
  · rw [table, String.toList_ofList]
    apply splitOn_terminated
    intro line member
    obtain ⟨cells, rfl, -, areCells⟩ := exists_cells_of_mem_tableLines member
    exact lineFeed_not_mem_fenced fun cell isOne => (areCells cell isOne).right
  · simp [tableLines]
  · intro line member
    obtain ⟨cells, rfl, count, areCells⟩ := exists_cells_of_mem_tableLines member
    rw [barePipes_fenced fun cell isOne => (areCells cell isOne).left, count]
  · intro row inRange areOneLine
    have isRowLine : view.tableLines[row + 2]? = some (view.rowLine row) := by
      simp [tableLines, inRange]
    rw [isRowLine, Option.bind_some, rowLine_eq_tableRow]
    apply readRow?_tableRow
    exact List.forall_mem_cons.mpr ⟨isOneLine_writeNatural row, areOneLine⟩

/-- A pipe inside of a text, and one after a backslash. -/
theorem table_with_pipes_reads_back :
    let view : View := ⟨1, 2, fun _ column => .plain (if column = 0 then "a|b" else "\\|")⟩
    ∃ lines,
      view.table.toList.splitOn '\n' = lines ++ [[]] ∧
      (lines[2]?).bind readRow? = some ["0".toList, "a|b".toList, "\\|".toList] := by
  intro view
  obtain ⟨lines, isSplit, -, -, reads⟩ := table_reads_back view
  have areTexts : view.rowTexts 0 = ["a|b".toList, "\\|".toList] := by
    rfl
  have areOneLine : ∀ text ∈ view.rowTexts 0, IsOneLine text := by
    simp [areTexts, IsOneLine]
  exact ⟨lines, isSplit, reads 0 (by decide) areOneLine⟩

end Spreadsheet.View
