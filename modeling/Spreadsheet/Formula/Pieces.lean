import Spreadsheet.Operator
import Spreadsheet.Text.Blank

namespace Spreadsheet.Formula

/-!
# Cutting a text at an operator

A text is cut at every occurrence of an operator's symbol, and the pieces are trimmed. A plus or
minus where an operand is still to come is a sign and no place to cut: the piece so far is blank, or
its last character that is not blank writes an operator. Whenever a text is cut at all, every piece
is shorter than the text.
-/

/-- An operand is still to come after a text, which is given from its end to its beginning. -/
def awaitsOperand (reversed : List Char) : Bool :=
  match reversed.dropWhile Text.isBlank with
  | [] => true
  | last :: _ => (Operator.ofSymbol? last).isSome

/-- The next character separates two operands of the operator. -/
def separates
    (operator : Operator)
    (reversed : List Char)
    (character : Char) :
    Bool :=
  character == operator.symbol && !(operator.isSign && awaitsOperand reversed)

/-- The pieces of a text whose first piece has begun with some characters, given in reverse. -/
def piecesFrom
    (operator : Operator)
    (reversed : List Char) :
    List Char → List (List Char)
  | [] => [Text.trim reversed.reverse]
  | character :: later =>
    if separates operator reversed character then
      Text.trim reversed.reverse :: piecesFrom operator [] later
    else
      piecesFrom operator (character :: reversed) later

/-- The trimmed pieces between the separating occurrences of the operator. -/
def pieces
    (operator : Operator)
    (text : List Char) :
    List (List Char) :=
  piecesFrom operator [] text

/-- The first operator in scan order at which the text is cut, with the pieces. -/
def split? (text : List Char) : Option (Operator × List (List Char)) :=
  Operator.scanOrder.findSome? fun operator =>
    let pieces := pieces operator text
    if 2 ≤ pieces.length then some (operator, pieces) else none

/-- The pieces and one character for each cut are no longer than the text. -/
theorem length_flatten_piecesFrom_le
    (operator : Operator)
    (reversed text : List Char) :
    (piecesFrom operator reversed text).flatten.length +
        (piecesFrom operator reversed text).length ≤
      reversed.length + text.length + 1 := by
  induction text generalizing reversed with
  | nil =>
    have trimmed := Text.length_trim_le reversed.reverse
    simp only [List.length_reverse] at trimmed
    simp only [piecesFrom, List.flatten_cons, List.flatten_nil, List.append_nil,
      List.length_cons, List.length_nil]
    omega
  | cons character later inductionHypothesis =>
    unfold piecesFrom
    split
    · have trimmed := Text.length_trim_le reversed.reverse
      simp only [List.length_reverse] at trimmed
      have laterPieces := inductionHypothesis []
      simp only [List.length_nil] at laterPieces
      simp only [List.flatten_cons, List.length_append, List.length_cons]
      omega
    · have allPieces := inductionHypothesis (character :: reversed)
      simp only [List.length_cons] at allPieces ⊢
      omega

/-- A piece of a text that is cut at all is shorter than the text. -/
theorem length_lt_of_mem_pieces
    {operator : Operator}
    {text piece : List Char}
    (cut : 2 ≤ (pieces operator text).length)
    (member : piece ∈ pieces operator text) :
    piece.length < text.length := by
  have total := length_flatten_piecesFrom_le operator [] text
  have bound : piece.length ≤ (pieces operator text).flatten.length :=
    (List.sublist_flatten_of_mem member).length_le
  simp only [pieces, List.length_nil] at cut bound total
  omega

/-- The pieces of a split are those of its operator, and there are two or more. -/
theorem pieces_of_split?_eq_some
    {text : List Char}
    {operator : Operator}
    {found : List (List Char)}
    (split : split? text = some (operator, found)) :
    found = pieces operator text ∧ 2 ≤ found.length := by
  obtain ⟨candidate, _, result⟩ := List.exists_of_findSome?_eq_some split
  dsimp only at result
  split at result
  · rename_i cut
    obtain ⟨rfl, rfl⟩ := Prod.mk.inj (Option.some.inj result)
    exact ⟨rfl, cut⟩
  · contradiction

/-- The pieces of a split are shorter than the text. -/
theorem length_lt_of_mem_split
    {text piece : List Char}
    {operator : Operator}
    {found : List (List Char)}
    (split : split? text = some (operator, found))
    (member : piece ∈ found) :
    piece.length < text.length := by
  obtain ⟨rfl, cut⟩ := pieces_of_split?_eq_some split
  exact length_lt_of_mem_pieces cut member

end Spreadsheet.Formula
