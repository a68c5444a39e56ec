import Spreadsheet.Formula.Offsets
import Spreadsheet.Proofs.Formula.Lexer
import Mathlib.Data.List.Forall2
import Mathlib.Data.String.Basic

namespace Spreadsheet.Formula

/-!
# What cutting a text keeps

Cutting a text at an operator takes it apart into slices with one symbol between two of them, so that
the slices give the text back. A symbol that is left inside a slice is a sign there, and one between
two slices is none. The byte offsets at which the slices are taken lie inside the text and between
its characters.
-/

/-- Every occurrence of the operator's symbol inside the slice is a sign. -/
def HoldsTogether
    (operator : Operator)
    (slice : List Char) : Prop :=
  ∀ before after,
    slice = before ++ operator.symbol :: after →
      separates operator before.reverse operator.symbol = false

/-- The text consists of slices that hold together, and of separating symbols between them. -/
inductive IsCutInto (operator : Operator) :
    List Char → List (List Char) → Prop where
  | uncut {slice : List Char} :
      HoldsTogether operator slice →
      IsCutInto operator slice [slice]
  | cut {slice later : List Char} {slices : List (List Char)} :
      HoldsTogether operator slice →
      separates operator slice.reverse operator.symbol = true →
      IsCutInto operator later slices →
      IsCutInto operator (slice ++ operator.symbol :: later) (slice :: slices)

/-- The slice is the piece with blanks, or nothing, on either side. -/
def IsPadded (piece slice : List Char) : Prop :=
  ∃ leading trailing,
    Text.IsBlankText leading ∧ Text.IsBlankText trailing ∧ slice = leading ++ piece ++ trailing

/-! ## Slices -/

theorem holdsTogether_nil
    (operator : Operator) :
    HoldsTogether operator [] := by
  intro before after shape
  simp at shape

/-- A character that does not separate can be put behind what holds together. -/
theorem HoldsTogether.append_singleton
    {operator : Operator}
    {slice : List Char}
    (together : HoldsTogether operator slice)
    {character : Char}
    (continues : separates operator slice.reverse character = false) :
    HoldsTogether operator (slice ++ [character]) := by
  intro before after shape
  rcases List.eq_nil_or_concat after with rfl | ⟨middle, last, rfl⟩
  · obtain ⟨rfl, same⟩ := List.append_inj' shape rfl
    obtain rfl := List.singleton_inj.mp same
    exact continues
  · have inside : slice ++ [character] = before ++ operator.symbol :: middle ++ [last] := by
      simpa using shape
    exact together before middle (List.append_inj' inside rfl).1

/-- The pieces of a text whose first slice has begun with some characters are its slices, trimmed. -/
theorem exists_isCutInto_piecesFrom
    {operator : Operator}
    {reversed : List Char}
    (together : HoldsTogether operator reversed.reverse)
    (text : List Char) :
    ∃ slices,
      IsCutInto operator (reversed.reverse ++ text) slices ∧
        piecesFrom operator reversed text = slices.map Text.trim := by
  induction text generalizing reversed with
  | nil =>
      refine ⟨[reversed.reverse], ?_, rfl⟩
      rw [List.append_nil]
      exact .uncut together
  | cons character later inductionHypothesis =>
      rw [piecesFrom]
      split
      · rename_i cuts
        have nothing : HoldsTogether operator [].reverse := holdsTogether_nil operator
        obtain ⟨slices, isCut, laterPieces⟩ := inductionHypothesis nothing
        have isSymbol : character = operator.symbol :=
          (operatorAfter?_eq_some_iff.mp (separates_eq_true_iff.mp cuts)).1
        subst isSymbol
        refine ⟨reversed.reverse :: slices, .cut together ?_ isCut, ?_⟩
        · rw [List.reverse_reverse]
          exact cuts
        · rw [laterPieces, List.map_cons]
      · rename_i continues
        have longer : HoldsTogether operator (character :: reversed).reverse := by
          rw [List.reverse_cons]
          apply together.append_singleton
          rw [List.reverse_reverse]
          exact Bool.eq_false_iff.mpr continues
        obtain ⟨slices, isCut, allPieces⟩ := inductionHypothesis longer
        refine ⟨slices, ?_, allPieces⟩
        simpa using isCut

/-- The pieces of a text are its slices, trimmed. -/
theorem exists_isCutInto_pieces
    (operator : Operator)
    (text : List Char) :
    ∃ slices,
      IsCutInto operator text slices ∧ pieces operator text = slices.map Text.trim := by
  have nothing : HoldsTogether operator [].reverse := holdsTogether_nil operator
  exact exists_isCutInto_piecesFrom nothing text

namespace IsCutInto

variable
  {operator : Operator}
  {text : List Char}
  {slices : List (List Char)}

theorem ne_nil
    (isCut : IsCutInto operator text slices) :
    slices ≠ [] := by
  cases isCut <;> simp

/-- The slices give the text back. -/
theorem eq_intercalate
    (isCut : IsCutInto operator text slices) :
    text = [operator.symbol].intercalate slices := by
  induction isCut with
  | uncut _ =>
      simp
  | cut _ _ isCut inductionHypothesis =>
      obtain ⟨next, rest, rfl⟩ := List.exists_cons_of_ne_nil isCut.ne_nil
      rw [List.intercalate_cons_cons, ← inductionHypothesis]
      simp

theorem holdsTogether_of_mem
    (isCut : IsCutInto operator text slices)
    {slice : List Char}
    (member : slice ∈ slices) :
    HoldsTogether operator slice := by
  induction isCut with
  | uncut together =>
      rw [List.mem_singleton.mp member]
      exact together
  | cut together _ _ inductionHypothesis =>
      rcases List.mem_cons.mp member with rfl | inLater
      · exact together
      · exact inductionHypothesis inLater

/-- A symbol that stands between two slices separates them. -/
theorem separates_of_mem_dropLast
    (isCut : IsCutInto operator text slices)
    {slice : List Char}
    (member : slice ∈ slices.dropLast) :
    separates operator slice.reverse operator.symbol = true := by
  induction isCut with
  | uncut _ =>
      simp at member
  | cut _ cuts isCut inductionHypothesis =>
      rw [List.dropLast_cons_of_ne_nil isCut.ne_nil] at member
      rcases List.mem_cons.mp member with rfl | inLater
      · exact cuts
      · exact inductionHypothesis inLater

end IsCutInto

/-! ## Pieces -/

theorem isPadded_trim
    (slice : List Char) :
    IsPadded (Text.trim slice) slice :=
  Text.exists_eq_append_trim_append slice

/-- The last character of a trimmed text is the last one of the text that is not blank. -/
theorem getLast?_trim
    (text : List Char) :
    (Text.trim text).getLast? = lastInk? text := by
  have leadingBlank : Text.IsBlankText (text.takeWhile Text.isBlank) :=
    fun _ member => List.mem_takeWhile_imp member
  calc
    (Text.trim text).getLast? = ((Text.trimStart text).reverse.dropWhile Text.isBlank).head? := by
      rw [Text.trim, Text.trimEnd, List.getLast?_reverse]
    _ = lastInk? (Text.trimStart text) := by
      rw [← lastInk?_reverse, List.reverse_reverse]
    _ = lastInk? (text.takeWhile Text.isBlank ++ Text.trimStart text) :=
      (lastInk?_append_left_of_isBlankText leadingBlank _).symm
    _ = lastInk? text := by
      rw [Text.trimStart, List.takeWhile_append_dropWhile]

/-- An operand is still to come after a slice exactly if its piece is empty or ends with a symbol. -/
theorem isEmpty_or_endsWithSymbol_trim
    (slice : List Char) :
    ((Text.trim slice).isEmpty || endsWithSymbol (Text.trim slice)) =
      awaitsOperand slice.reverse := by
  rw [awaitsOperand_eq_all, List.reverse_reverse, ← getLast?_trim, endsWithSymbol]
  cases isLast : (Text.trim slice).getLast? with
  | none =>
      rw [List.getLast?_eq_none_iff.mp isLast]
      rfl
  | some last =>
      have nonempty : Text.trim slice ≠ [] := by
        intro empty
        simp [empty] at isLast
      simp [nonempty, isSymbol]

/-- The symbol of an operator that is no sign does not stand in what holds together. -/
theorem HoldsTogether.symbol_not_mem
    {operator : Operator}
    {slice : List Char}
    (together : HoldsTogether operator slice)
    (noSign : operator.isSign = false) :
    operator.symbol ∉ slice := by
  intro member
  obtain ⟨before, after, shape⟩ := List.append_of_mem member
  have continues := together before after shape
  simp [separates, noSign] at continues

theorem lastInk?_eq_none_iff
    {text : List Char} :
    lastInk? text = none ↔ Text.IsBlankText text := by
  simp [lastInk?, Text.IsBlankText]

/-- The last character of the text that is not blank, if there is one, writes an operator. -/
def IsBlankOrEndsWithSymbol (text : List Char) : Prop :=
  Text.IsBlankText text ∨ ∃ last, lastInk? text = some last ∧ isSymbol last = true

theorem isBlankOrEndsWithSymbol_iff
    {text : List Char} :
    IsBlankOrEndsWithSymbol text ↔ awaitsOperand text.reverse = true := by
  rw [IsBlankOrEndsWithSymbol, awaitsOperand_eq_all, List.reverse_reverse, ← lastInk?_eq_none_iff]
  cases lastInk? text <;> simp

/-- A sign in a piece has only blanks in front of it there, or a symbol and then blanks. -/
theorem HoldsTogether.isBlankOrEndsWithSymbol
    {operator : Operator}
    {slice : List Char}
    (together : HoldsTogether operator slice)
    {before after : List Char}
    (shape : Text.trim slice = before ++ operator.symbol :: after) :
    IsBlankOrEndsWithSymbol before := by
  obtain ⟨leading, trailing, leadingBlank, -, padded⟩ := isPadded_trim slice
  have inSlice : slice = (leading ++ before) ++ operator.symbol :: (after ++ trailing) := by
    rw [padded, shape]
    simp
  have sameInk : awaitsOperand (leading ++ before).reverse = awaitsOperand before.reverse := by
    rw [awaitsOperand_eq_all, awaitsOperand_eq_all, List.reverse_reverse, List.reverse_reverse,
      lastInk?_append_left_of_isBlankText leadingBlank]
  have isSign : (operator.isSign && awaitsOperand before.reverse) = true := by
    have continues := together _ _ inSlice
    rw [separates, sameInk] at continues
    simpa using continues
  exact isBlankOrEndsWithSymbol_iff.mpr (Bool.and_eq_true_iff.mp isSign).2

/-! ## Byte offsets -/

/-- The byte offset behind some characters. -/
def offsetAfter (text : List Char) : String.Pos.Raw :=
  (String.ofList text).rawEndPos

theorem offsetAfter_append_singleton
    (text : List Char)
    (character : Char) :
    offsetAfter (text ++ [character]) = offsetAfter text + character := by
  simp [offsetAfter]

/-- What stands between two runs of characters is sliced out at the offsets of its ends. -/
theorem slice?_offsetAfter
    {text : String}
    {before slice after : List Char}
    (shape : text.toList = before ++ slice ++ after) :
    slice? text (offsetAfter before) (offsetAfter (before ++ slice)) =
      some (String.ofList slice) := by
  have isText : text = String.ofList (before ++ slice ++ after) := by
    rw [← shape, String.ofList_toList]
  have startValid : (offsetAfter before).IsValid text := by
    rw [String.Pos.Raw.isValid_iff_exists_append]
    refine ⟨String.ofList before, String.ofList (slice ++ after), ?_, rfl⟩
    rw [isText, ← String.ofList_append, List.append_assoc]
  have stopValid : (offsetAfter (before ++ slice)).IsValid text := by
    rw [String.Pos.Raw.isValid_iff_exists_append]
    refine ⟨String.ofList (before ++ slice), String.ofList after, ?_, rfl⟩
    rw [isText, ← String.ofList_append]
  have inOrder : offsetAfter before ≤ offsetAfter (before ++ slice) := by
    simp [offsetAfter, String.Pos.Raw.le_iff, String.utf8ByteSize_ofList]
  rw [slice?, if_pos ⟨inOrder, startValid, stopValid⟩, isText]
  simp only [offsetAfter, String.rawEndPos_ofList, String.utf8Len_append,
    String.extract_of_valid]

/-- At the end of the text the last piece is what has been read since the last cut. -/
theorem finish_eq
    {text : String}
    {before slice : List Char}
    (shape : text.toList = before ++ slice)
    (found : List (List Char)) :
    Cutter.finish text ⟨offsetAfter before, found⟩ = some (found ++ [Text.trim slice]) := by
  have atEnd : text.rawEndPos = offsetAfter (before ++ slice) := by
    rw [offsetAfter, ← shape, String.ofList_toList]
  have wholeShape : text.toList = before ++ slice ++ [] := by
    rw [shape, List.append_nil]
  simp only [Cutter.finish, atEnd, slice?_offsetAfter wholeShape, Option.bind_eq_bind,
    Option.bind_some, String.toList_ofList, Option.pure_def]

/-- The cutter cuts where the next character separates, and otherwise leaves everything as it is. -/
theorem step_eq
    {operator : Operator}
    {text : String}
    {before reversed later : List Char}
    {character : Char}
    (shape : text.toList = before ++ reversed.reverse ++ character :: later)
    (found : List (List Char)) :
    Cutter.step operator text ⟨offsetAfter before, found⟩
        (offsetAfter (before ++ reversed.reverse), character) =
      some
        (if separates operator reversed character then
          ⟨offsetAfter (before ++ reversed.reverse ++ [character]),
            found ++ [Text.trim reversed.reverse]⟩
        else
          ⟨offsetAfter before, found⟩) := by
  by_cases isSymbol : character = operator.symbol
  · have isSign := isEmpty_or_endsWithSymbol_trim reversed.reverse
    rw [List.reverse_reverse] at isSign
    simp only [Cutter.step, separates, isSymbol, beq_self_eq_true, if_true,
      slice?_offsetAfter shape, Option.bind_eq_bind, Option.bind_some, String.toList_ofList, isSign,
      offsetAfter_append_singleton, Bool.true_and]
    cases operator.isSign && awaitsOperand reversed <;> rfl
  · simp [Cutter.step, separates, isSymbol]

/--
The cutter finds the pieces of the text that is still to be read, with the characters since the last
cut in front of it. All slices that it takes exist.
-/
theorem foldlM_step_bind_finish
    {operator : Operator}
    {text : String}
    {before reversed later : List Char}
    (shape : text.toList = before ++ reversed.reverse ++ later)
    (found : List (List Char)) :
    ((withOffsets (offsetAfter (before ++ reversed.reverse)) later).foldlM
        (Cutter.step operator text) ⟨offsetAfter before, found⟩ >>= Cutter.finish text) =
      some (found ++ piecesFrom operator reversed later) := by
  induction later generalizing before reversed found with
  | nil =>
      rw [List.append_nil] at shape
      exact finish_eq shape found
  | cons character later inductionHypothesis =>
      rw [withOffsets, List.foldlM_cons, step_eq shape, ← offsetAfter_append_singleton, piecesFrom]
      by_cases cuts : separates operator reversed character = true
      · have cutShape :
            text.toList = (before ++ reversed.reverse ++ [character]) ++ [].reverse ++ later := by
          simpa using shape
        have laterPieces := inductionHypothesis cutShape (found ++ [Text.trim reversed.reverse])
        rw [List.reverse_nil, List.append_nil, List.append_assoc found] at laterPieces
        rw [if_pos cuts, if_pos cuts]
        exact laterPieces
      · have longerShape :
            text.toList = before ++ (character :: reversed).reverse ++ later := by
          simpa using shape
        have allPieces := inductionHypothesis longerShape found
        rw [List.reverse_cons, ← List.append_assoc] at allPieces
        rw [if_neg cuts, if_neg cuts]
        exact allPieces

/-- Cutting a text at its byte offsets gives the pieces; no slice is missing. -/
theorem cut?_eq
    (operator : Operator)
    (text : String) :
    cut? operator text = some (pieces operator text.toList) := by
  have shape : text.toList = [] ++ [].reverse ++ text.toList := rfl
  exact foldlM_step_bind_finish shape []

/--
Cutting a text at an operator misses no slice. The pieces, with the blanks around each of them and
with one symbol between two of them, are the text, and they are trimmed. A symbol that is no sign is
in none of the pieces. A plus or minus that is left in a piece has in front of it, up to blanks, either
nothing or a symbol; one that has been cut at follows a piece that is not empty and does not end with
a symbol.
-/
theorem cutting_loses_and_duplicates_nothing
    (operator : Operator)
    (text : String) :
    cut? operator text = some (pieces operator text.toList) ∧
    (∃ slices,
      List.Forall₂ IsPadded (pieces operator text.toList) slices ∧
        text.toList = [operator.symbol].intercalate slices) ∧
    (∀ piece ∈ pieces operator text.toList, Text.trim piece = piece) ∧
    (operator.isSign = false →
      ∀ piece ∈ pieces operator text.toList, operator.symbol ∉ piece) ∧
    (operator.isSign = true →
      (∀ piece ∈ pieces operator text.toList, ∀ before after,
        piece = before ++ operator.symbol :: after → IsBlankOrEndsWithSymbol before) ∧
      ∀ piece ∈ (pieces operator text.toList).dropLast,
        piece ≠ [] ∧ endsWithSymbol piece = false) := by
  obtain ⟨slices, isCut, areTrimmed⟩ := exists_isCutInto_pieces operator text.toList
  rw [cut?_eq, areTrimmed, List.forall_mem_map, List.forall_mem_map]
  refine ⟨rfl, ⟨slices, ?_, isCut.eq_intercalate⟩, ?_, ?_, ?_⟩
  · rw [List.forall₂_map_left_iff]
    exact List.forall₂_same.mpr fun slice _ => isPadded_trim slice
  · intro slice _
    exact Text.trim_trim slice
  · intro noSign slice member inPiece
    have absent := (isCut.holdsTogether_of_mem member).symbol_not_mem noSign
    obtain ⟨leading, trailing, -, -, padded⟩ := isPadded_trim slice
    apply absent
    rw [padded]
    simp [inPiece]
  · intro sign
    refine ⟨?_, ?_⟩
    · intro piece member before after shape
      obtain ⟨slice, inSlices, rfl⟩ := List.mem_map.mp member
      exact (isCut.holdsTogether_of_mem inSlices).isBlankOrEndsWithSymbol shape
    · intro piece member
      rw [← List.map_dropLast] at member
      obtain ⟨slice, inSlices, rfl⟩ := List.mem_map.mp member
      have closed : awaitsOperand slice.reverse = false := by
        simpa [separates, sign] using isCut.separates_of_mem_dropLast inSlices
      rw [← isEmpty_or_endsWithSymbol_trim] at closed
      simpa using closed

/--
The first minus follows a number of two bytes, the second one a blank of two bytes. At a sign for
multiplication, which is no sign of a number, the text is always cut.
-/
theorem cutting_keeps_sign_after_wide_blank :
    Operator.minus.isSign = true ∧
      cut? .minus "½ -\u00a0-4 - x" = some [['½'], ['-', '4'], ['x']] ∧
      (∀ before after,
        ['-', '4'] = before ++ '-' :: after → IsBlankOrEndsWithSymbol before) ∧
      endsWithSymbol ['-', '4'] = false ∧
      Operator.times.isSign = false ∧
      cut? .times "½ * -4" = some [['½'], ['-', '4']] ∧
      '*' ∉ ['-', '4'] := by
  have sign : Operator.minus.isSign = true := rfl
  have noSign : Operator.times.isSign = false := rfl
  obtain ⟨cuts, -, -, -, ofSign⟩ :=
    cutting_loses_and_duplicates_nothing .minus "½ -\u00a0-4 - x"
  obtain ⟨kept, separated⟩ := ofSign sign
  have arePieces :
      pieces .minus "½ -\u00a0-4 - x".toList = [['½'], ['-', '4'], ['x']] := by
    decide
  rw [arePieces] at cuts kept separated
  obtain ⟨factors, -, -, ofNoSign, -⟩ := cutting_loses_and_duplicates_nothing .times "½ * -4"
  have areFactors : pieces .times "½ * -4".toList = [['½'], ['-', '4']] := by
    decide
  rw [areFactors] at factors ofNoSign
  exact ⟨sign, cuts, kept _ (by simp), (separated ['-', '4'] (by simp)).2,
    noSign, factors, ofNoSign noSign _ (by simp)⟩

end Spreadsheet.Formula
