import Spreadsheet.Formula.Pieces

namespace Spreadsheet.Formula

/-!
# Cutting a text at byte offsets

A text is cut by reading its characters together with the byte offsets at which they begin in UTF-8.
At each symbol of the operator, what has been read since the last cut is sliced out of the text. If
the slice is an operand, the text is cut there; otherwise the symbol is a sign, and the slice is taken
again at the next symbol. Two offsets of which one lies inside a character have no slice, and then
there are no pieces at all.
-/

/--
The part of a text between two byte offsets, which must be in this order, and neither of which may lie
outside the text or inside a character.
-/
def slice?
    (text : String)
    (start stop : String.Pos.Raw) :
    Option String :=
  if start ≤ stop ∧ start.IsValid text ∧ stop.IsValid text then
    some (start.extract text stop)
  else
    none

/-- Characters with the byte offsets at which they begin, the first of them at the given one. -/
def withOffsets :
    String.Pos.Raw → List Char → List (String.Pos.Raw × Char)
  | _, [] => []
  | offset, character :: later =>
    (offset, character) :: withOffsets (offset + character) later

/-- The last character writes an operator. -/
def endsWithSymbol (text : List Char) : Bool :=
  match text.getLast? with
  | none => false
  | some last => (Operator.ofSymbol? last).isSome

/-- Where the next slice of a text begins, and the pieces that have been cut off before. -/
structure Cutter where
  start : String.Pos.Raw
  pieces : List (List Char)

namespace Cutter

/-- Goes on to a character of the text, which begins at an offset. -/
def step
    (operator : Operator)
    (text : String)
    (cutter : Cutter)
    (place : String.Pos.Raw × Char) :
    Option Cutter :=
  let (offset, character) := place
  if character == operator.symbol then do
    let slice ← slice? text cutter.start offset
    let piece := Text.trim slice.toList
    if operator.isSign && (piece.isEmpty || endsWithSymbol piece) then
      return cutter
    else
      return ⟨offset + character, cutter.pieces ++ [piece]⟩
  else
    return cutter

/-- The pieces that have been cut off, and the last one, which reaches to the end of the text. -/
def finish
    (text : String)
    (cutter : Cutter) :
    Option (List (List Char)) := do
  let slice ← slice? text cutter.start text.rawEndPos
  return cutter.pieces ++ [Text.trim slice.toList]

end Cutter

/-- The trimmed pieces between the separating occurrences of the operator, if all slices exist. -/
def cut?
    (operator : Operator)
    (text : String) :
    Option (List (List Char)) := do
  let cutter ← (withOffsets 0 text.toList).foldlM (Cutter.step operator text) ⟨0, []⟩
  cutter.finish text

end Spreadsheet.Formula
