import Spreadsheet.Proofs.Formula.NormalForm

namespace Spreadsheet.Formula

/-!
# Nested calls of the parser

To read a text that it can cut, the parser calls itself for each piece. A plus or minus that is a
sign in the text is a sign in every piece as well, so a piece can be cut only at operators that stand
later in scan order than the one that has cut it off. Hence no more calls are nested than there are
operators, with one more for the token at the end, however long the text is.
-/

/-- The parser cuts the text at the operator. -/
def IsCutAt
    (text : List Char)
    (operator : Operator) : Prop :=
  ∃ found, split? (Text.trim text) = some (operator, found)

/-- To read the text, the parser calls itself for the piece: the text is cut, and no piece is empty. -/
def Calls (text piece : List Char) : Prop :=
  ∃ operator found,
    split? (Text.trim text) = some (operator, found) ∧ [] ∉ found ∧ piece ∈ found

/-- Reads a formula with at most so many nested calls, and gives nothing if these do not suffice. -/
def parseWithin (build : OperationBuilder) :
    Nat → List Char → ExceptT FormulaError Option Expression
  | 0, _ => .mk none
  | budget + 1, text =>
      let trimmed := Text.trim text
      if trimmed.isEmpty then
        pure .empty
      else
        match split? trimmed with
        | none => .mk (some (token trimmed))
        | some (operator, pieces) =>
            if pieces.any List.isEmpty then
              .mk (some (token trimmed))
            else do
              let operands ← pieces.mapM (parseWithin build budget)
              .mk (some ((build operator.name operands).mapError .invalidOperation))

/-! ## What one call cuts -/

/-- The operator at which a text is cut is the first in scan order that the lexer finds. -/
theorem exists_scanOrder_of_split?
    {text : List Char}
    {operator : Operator}
    {found : List (List Char)}
    (split : split? text = some (operator, found)) :
    ∃ looser tighter,
      Operator.scanOrder = looser ++ operator :: tighter ∧
        (∀ other ∈ looser, other ∉ (lex text).operators) ∧
        operator ∈ (lex text).operators := by
  obtain ⟨looser, candidate, tighter, order, cut, nothingLooser⟩ :=
    List.findSome?_eq_some_iff.mp split
  obtain ⟨several, same⟩ := Option.ite_none_right_eq_some.mp cut
  obtain ⟨rfl, -⟩ := Prod.mk.inj (Option.some.inj same)
  refine ⟨looser, tighter, order, ?_, two_le_length_pieces_iff.mp several⟩
  intro other member present
  have uncut := nothingLooser other member
  rw [if_pos (two_le_length_pieces_iff.mpr present)] at uncut
  contradiction

/-- The lexer finds in a piece the operators of the text other than the one at which it is cut. -/
theorem mem_operators_of_mem_split
    {text piece : List Char}
    {operator inner : Operator}
    {found : List (List Char)}
    (split : split? text = some (operator, found))
    (member : piece ∈ found)
    (inside : inner ∈ (lex piece).operators) :
    inner ∈ (lex text).operators ∧ inner ≠ operator := by
  obtain ⟨rfl, -⟩ := pieces_of_split?_eq_some split
  have isPart : lex piece ∈ (lex text).parts operator := by
    rw [← map_lex_pieces]
    exact List.mem_map_of_mem member
  refine ⟨FlatFormula.mem_operators_of_mem_parts isPart inside, ?_⟩
  rintro rfl
  exact FlatFormula.not_mem_operators_of_mem_parts isPart inside

/-- A piece is cut, if at all, at an operator that stands later in scan order. -/
theorem Calls.rank_lt
    {text piece : List Char}
    (calls : Calls text piece)
    {outer inner : Operator}
    (isCut : IsCutAt text outer)
    (pieceIsCut : IsCutAt piece inner) :
    outer.rank < inner.rank := by
  obtain ⟨operator, found, split, -, member⟩ := calls
  obtain ⟨otherFound, sameSplit⟩ := isCut
  obtain ⟨rfl, rfl⟩ := Prod.mk.inj (Option.some.inj (split.symm.trans sameSplit))
  obtain ⟨innerFound, innerSplit⟩ := pieceIsCut
  obtain ⟨-, -, -, -, inPiece⟩ := exists_scanOrder_of_split? innerSplit
  rw [lex_trim] at inPiece
  obtain ⟨inText, different⟩ := mem_operators_of_mem_split split member inPiece
  obtain ⟨looser, tighter, order, noLooser, -⟩ := exists_scanOrder_of_split? split
  apply (Operator.rank_lt_rank_iff order).mpr
  -- The inner operator is in scan order, and neither before the outer one nor equal to it.
  have listed : inner ∈ looser ++ operator :: tighter := order ▸ inner.mem_scanOrder
  rcases List.mem_append.mp listed with isLooser | inRest
  · exact absurd inText (noLooser inner isLooser)
  · exact (List.mem_cons.mp inRest).resolve_left different

theorem Calls.length_lt
    {text piece : List Char}
    (calls : Calls text piece) :
    piece.length < text.length := by
  obtain ⟨operator, found, split, -, member⟩ := calls
  exact (length_lt_of_mem_split split member).trans_le (Text.length_trim_le text)

/-- To prove a property of all texts, prove it of a text from the texts that it calls for. -/
@[elab_as_elim]
theorem inductionOnCalls
    {motive : List Char → Prop}
    (text : List Char)
    (step : ∀ text, (∀ piece, Calls text piece → motive piece) → motive text) :
    motive text := by
  induction size : text.length using Nat.strong_induction_on generalizing text with
  | _ size inductionHypothesis =>
      apply step
      intro piece calls
      exact inductionHypothesis piece.length (size ▸ calls.length_lt) piece rfl

/--
A text is read at once, in the same way with all builders and budgets, or from its pieces, for each
of which the parser calls itself.
-/
theorem read_at_once_or_from_pieces
    (text : List Char) :
    (∃ outcome : Except FormulaError Expression,
      (∀ expression, outcome = .ok expression → expression.operator? = none) ∧
      (∀ build, parseCharacters build text = outcome) ∧
      ∀ build budget, parseWithin build (budget + 1) text = .mk (some outcome)) ∨
    ∃ (operator : Operator) (pieces : List (List Char)),
      (∀ piece ∈ pieces, Calls text piece) ∧
      (∀ build : OperationBuilder,
        parseCharacters build text = (do
          let operands ← pieces.mapM (parseCharacters build)
          (build operator.name operands).mapError .invalidOperation)) ∧
      ∀ (build : OperationBuilder) budget,
        parseWithin build (budget + 1) text = (do
          let operands ← pieces.mapM (parseWithin build budget)
          .mk (some ((build operator.name operands).mapError .invalidOperation))) := by
  have atom : ∀ characters expression,
      token characters = .ok expression → expression.operator? = none := by
    intro characters expression isToken
    exact (Expression.isGrouped_of_isLeaf (token_eq_ok_iff.mp isToken).isLeaf).2
  by_cases blank : (Text.trim text).isEmpty
  · refine Or.inl ⟨.ok .empty, ?_, ?_, ?_⟩
    · rintro expression ⟨⟩
      rfl
    · intro build
      rw [parseCharacters_eq, if_pos blank]
    · intro build budget
      simp only [parseWithin, blank, if_true]
      rfl
  cases split : split? (Text.trim text) with
  | none =>
      refine Or.inl ⟨token (Text.trim text), atom _, ?_, ?_⟩
      · intro build
        rw [parseCharacters_eq, if_neg blank, split]
      · intro build budget
        simp only [parseWithin, blank, split]
        rfl
  | some cut =>
      obtain ⟨operator, pieces⟩ := cut
      by_cases empty : pieces.any List.isEmpty
      · refine Or.inl ⟨token (Text.trim text), atom _, ?_, ?_⟩
        · intro build
          rw [parseCharacters_eq, if_neg blank, split]
          exact if_pos empty
        · intro build budget
          simp only [parseWithin, blank, split, empty, if_true]
          rfl
      · have noneEmpty : [] ∉ pieces := by
          intro member
          exact empty (List.any_eq_true.mpr ⟨[], member, rfl⟩)
        refine Or.inr ⟨operator, pieces, ?_, ?_, ?_⟩
        · intro piece member
          exact ⟨operator, pieces, split, noneEmpty, member⟩
        · intro build
          rw [parseCharacters_eq, if_neg blank, split]
          exact if_neg empty
        · intro build budget
          simp only [parseWithin, blank, split, empty]
          rfl

/-! ## How many calls are nested -/

/-- A number of calls that the parser does not exceed when it reads the text. -/
def callBound (text : List Char) : Nat :=
  match split? (Text.trim text) with
  | none => 1
  | some (operator, _) => Operator.scanOrder.length + 1 - operator.rank

theorem rank_lt_length_scanOrder
    (operator : Operator) :
    operator.rank < Operator.scanOrder.length :=
  List.idxOf_lt_length_of_mem operator.mem_scanOrder

theorem callBound_pos
    (text : List Char) :
    0 < callBound text := by
  rw [callBound]
  cases split? (Text.trim text) with
  | none =>
      exact Nat.one_pos
  | some cut =>
      have bound := rank_lt_length_scanOrder cut.1
      exact Nat.sub_pos_of_lt (Nat.lt_succ_of_lt bound)

theorem callBound_le_seven
    (text : List Char) :
    callBound text ≤ 7 := by
  have six : Operator.scanOrder.length = 6 := rfl
  unfold callBound
  split <;> omega

/-- A piece needs fewer calls than the text from which it is cut. -/
theorem Calls.callBound_lt
    {text piece : List Char}
    (calls : Calls text piece) :
    callBound piece < callBound text := by
  have later : ∀ outer inner, IsCutAt text outer → IsCutAt piece inner → outer.rank < inner.rank :=
    fun _ _ => calls.rank_lt
  obtain ⟨outer, found, split, -, -⟩ := calls
  have outerBound := rank_lt_length_scanOrder outer
  rw [callBound, callBound, split]
  cases pieceSplit : split? (Text.trim piece) with
  | none =>
      simp only
      omega
  | some cut =>
      obtain ⟨inner, innerFound⟩ := cut
      have higher := later outer inner ⟨found, split⟩ ⟨innerFound, pieceSplit⟩
      have innerBound := rank_lt_length_scanOrder inner
      simp only
      omega

theorem length_le_callBound
    {text : List Char}
    {nested : List (List Char)}
    (chain : List.IsChain Calls (text :: nested)) :
    (text :: nested).length ≤ callBound text := by
  induction nested generalizing text with
  | nil =>
      exact callBound_pos text
  | cons piece later inductionHypothesis =>
      obtain ⟨calls, laterChain⟩ := List.isChain_cons_cons.mp chain
      have laterBound := inductionHypothesis laterChain
      have fewer := calls.callBound_lt
      rw [List.length_cons]
      omega

/-- If the budget suffices for each of several items, then it suffices for all of them. -/
theorem mapM_within
    {α β ε : Type}
    {readWithin : α → ExceptT ε Option β}
    {read : α → Except ε β}
    {items : List α}
    (suffice : ∀ item ∈ items, readWithin item = .mk (some (read item))) :
    items.mapM readWithin = .mk (some (items.mapM read)) := by
  induction items with
  | nil =>
      rfl
  | cons item later inductionHypothesis =>
      have laterRead := inductionHypothesis fun other member =>
        suffice other (List.mem_cons_of_mem _ member)
      rw [List.mapM_cons, List.mapM_cons, suffice item (List.mem_cons_self ..), laterRead]
      cases read item with
      | error cause =>
          rfl
      | ok value =>
          cases later.mapM read <;> rfl

/-- A budget of so many calls as a text needs at most does not change how the text is read. -/
theorem parseWithin_eq
    (build : OperationBuilder)
    {budget : Nat}
    {text : List Char}
    (enough : callBound text ≤ budget) :
    parseWithin build budget text = .mk (some (parseCharacters build text)) := by
  induction budget generalizing text with
  | zero =>
      have positive := callBound_pos text
      omega
  | succ budget inductionHypothesis =>
      rcases read_at_once_or_from_pieces text with
        ⟨outcome, -, read, readWithin⟩ | ⟨operator, pieces, areCalls, read, readWithin⟩
      · rw [read, readWithin]
      · have piecesRead : pieces.mapM (parseWithin build budget) =
            .mk (some (pieces.mapM (parseCharacters build))) := by
          apply mapM_within
          intro piece member
          have fewer := (areCalls piece member).callBound_lt
          exact inductionHypothesis (by omega)
        rw [read, readWithin, piecesRead]
        cases pieces.mapM (parseCharacters build) <;> rfl

/--
Whatever the text and whether it can be read or not, the parser calls itself only for shorter texts
that it can cut only at later operators. At most seven calls are nested, and a parser with a budget
of seven nested calls always comes to a result, the same as without a budget.
-/
theorem parse_nests_at_most_seven_calls :
    (∀ text piece, Calls text piece →
      piece.length < text.length ∧
        ∀ outer inner, IsCutAt text outer → IsCutAt piece inner → outer.rank < inner.rank) ∧
    (∀ calls : List (List Char), calls.IsChain Calls → calls.length ≤ 7) ∧
    ∀ (build : OperationBuilder) (text : String),
      parseWithin build 7 text.toList = .mk (some (parseWith build text)) := by
  refine ⟨?_, ?_, ?_⟩
  · intro text piece calls
    exact ⟨calls.length_lt, fun _ _ => calls.rank_lt⟩
  · intro calls chain
    cases calls with
    | nil =>
        exact Nat.zero_le 7
    | cons text nested =>
        exact (length_le_callBound chain).trans (callBound_le_seven text)
  · intro build text
    exact parseWithin_eq build (callBound_le_seven text.toList)

/-- A formula with all operators, and for each of its operators the piece behind it. -/
def deepestCalls : List (List Char) :=
  ["1=2 < 3+4 - 5*6 / -7".toList, "2 < 3+4 - 5*6 / -7".toList, "3+4 - 5*6 / -7".toList,
    "4 - 5*6 / -7".toList, "5*6 / -7".toList, "6 / -7".toList, "-7".toList]

theorem deepestCalls_are_nested :
    deepestCalls.IsChain Calls ∧
      (∀ text, ¬ (text :: deepestCalls).IsChain Calls) ∧
      Operator.equal.rank < Operator.less.rank ∧
      parseWithin Expression.build 6 "1=2 < 3+4 - 5*6 / -7".toList = .mk none ∧
      parseWithin Expression.build 7 "1=2 < 3+4 - 5*6 / -7".toList =
        .mk (some (parse "1=2 < 3+4 - 5*6 / -7")) := by
  obtain ⟨called, nested, reads⟩ := parse_nests_at_most_seven_calls
  have chain : deepestCalls.IsChain Calls := by
    simp only [deepestCalls, List.isChain_cons_cons]
    exact ⟨⟨.equal, _, rfl, by decide, by decide⟩, ⟨.less, _, rfl, by decide, by decide⟩,
      ⟨.plus, _, rfl, by decide, by decide⟩, ⟨.minus, _, rfl, by decide, by decide⟩,
      ⟨.times, _, rfl, by decide, by decide⟩, ⟨.divide, _, rfl, by decide, by decide⟩,
      .singleton _⟩
  refine ⟨chain, ?_, ?_, rfl, reads Expression.build _⟩
  · intro text longer
    exact absurd (nested _ longer) (by simp [deepestCalls])
  · exact (called _ _ (List.isChain_cons_cons.mp chain).1).2 _ _ ⟨_, rfl⟩ ⟨_, rfl⟩

end Spreadsheet.Formula
