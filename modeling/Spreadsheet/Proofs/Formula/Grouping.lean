import Spreadsheet.Proofs.Formula.Atom
import Mathlib.Data.List.Forall2

namespace Spreadsheet.Formula

/-!
# Parsing is lexing and grouping

The parser cuts a text again at every level and decides anew for each piece which characters are
signs. It is shown to find what one pass of the lexer over the whole text finds, grouped by the
order of the operators.
-/

/-! ## Mapping with failures -/

theorem mapM_eq_ok_map
    {α β ε : Type}
    {read : α → Except ε β}
    {value : α → β}
    {items : List α}
    (reads : ∀ item ∈ items, read item = .ok (value item)) :
    items.mapM read = .ok (items.map value) := by
  induction items with
  | nil =>
      rfl
  | cons item later inductionHypothesis =>
      have laterReads : later.mapM read = .ok (later.map value) :=
        inductionHypothesis fun other member =>
          reads other (List.mem_cons_of_mem _ member)
      rw [List.mapM_cons, reads item (by simp), laterReads]
      rfl

/-- If each item is read or fails in some way, and one fails, then the whole fails in that way. -/
theorem exists_mapM_eq_error
    {α β ε : Type}
    {read : α → Except ε β}
    {expected : ε → Prop}
    {items : List α}
    (fails : ∀ item ∈ items, ∀ cause, read item = .error cause → expected cause)
    {item : α}
    (member : item ∈ items)
    {cause : ε}
    (failing : read item = .error cause) :
    ∃ first, expected first ∧ items.mapM read = .error first := by
  induction items with
  | nil =>
      contradiction
  | cons head later inductionHypothesis =>
      cases readHead : read head with
      | error first =>
          refine ⟨first, fails head (by simp) first readHead, ?_⟩
          rw [List.mapM_cons, readHead]
          rfl
      | ok value =>
          have inLater : item ∈ later := by
            rcases List.mem_cons.mp member with isHead | inLater
            · simp [isHead, readHead] at failing
            · exact inLater
          obtain ⟨first, isExpected, laterFails⟩ :=
            inductionHypothesis
              (fun other inside => fails other (List.mem_cons_of_mem _ inside))
              inLater
          refine ⟨first, isExpected, ?_⟩
          rw [List.mapM_cons, readHead, laterFails]
          rfl

/-! ## The pieces of a split -/

theorem trim_of_mem_piecesFrom
    {operator : Operator}
    {reversed text piece : List Char}
    (member : piece ∈ piecesFrom operator reversed text) :
    Text.trim piece = piece := by
  induction text generalizing reversed with
  | nil =>
      rw [List.mem_singleton.mp member, Text.trim_trim]
  | cons character later inductionHypothesis =>
      rw [piecesFrom] at member
      split at member
      · rcases List.mem_cons.mp member with isFirst | isLater
        · rw [isFirst, Text.trim_trim]
        · exact inductionHypothesis isLater
      · exact inductionHypothesis member

/-- A text is cut at exactly the operators that the lexer finds. -/
theorem two_le_length_pieces_iff
    {operator : Operator}
    {text : List Char} :
    2 ≤ (pieces operator text).length ↔ operator ∈ (lex text).operators := by
  have sameLength : (pieces operator text).length = ((lex text).parts operator).length := by
    rw [← map_lex_pieces, List.length_map]
  have oneMore :
      ((lex text).parts operator).length =
        ((lex text).cut operator).2.length + 1 := rfl
  constructor
  · intro several
    by_contra absent
    have none := FlatFormula.cut_snd_eq_nil_iff.mpr absent
    rw [none, List.length_nil] at oneMore
    omega
  · intro present
    have some : ((lex text).cut operator).2 ≠ [] :=
      fun none => FlatFormula.cut_snd_eq_nil_iff.mp none present
    have := List.length_pos_iff.mpr some
    omega

theorem split?_eq_none
    {text : List Char}
    (noOperator : (lex text).operators = []) :
    split? text = none := by
  rw [split?, List.findSome?_eq_none_iff]
  intro operator _
  have absent : ¬ 2 ≤ (pieces operator text).length := by
    rw [two_le_length_pieces_iff, noOperator]
    exact List.not_mem_nil
  exact if_neg absent

/-- A text is split at the first operator in scan order that the lexer finds. -/
theorem split?_eq_some
    {operator : Operator}
    {looser tighter : List Operator}
    (order : Operator.scanOrder = looser ++ operator :: tighter)
    {text : List Char}
    (noLooser : ∀ other ∈ looser, other ∉ (lex text).operators)
    (present : operator ∈ (lex text).operators) :
    split? text = some (operator, pieces operator text) := by
  have nothingLooser :
      looser.findSome? (fun other =>
        let pieces := pieces other text
        if 2 ≤ pieces.length then some (other, pieces) else none) = none := by
    rw [List.findSome?_eq_none_iff]
    intro other member
    exact if_neg (mt two_le_length_pieces_iff.mp (noLooser other member))
  rw [split?, order, List.findSome?_append, nothingLooser, Option.none_or,
    List.findSome?_cons]
  simp only [if_pos (two_le_length_pieces_iff.mpr present)]

/-! ## What the parser does at one level -/

theorem parseCharacters_eq
    (build : OperationBuilder)
    (text : List Char) :
    parseCharacters build text =
      if (Text.trim text).isEmpty then
        .ok .empty
      else
        match split? (Text.trim text) with
        | none => token (Text.trim text)
        | some (operator, pieces) =>
            if pieces.any List.isEmpty then
              token (Text.trim text)
            else (do
              let operands ← pieces.mapM (parseCharacters build)
              (build operator.name operands).mapError .invalidOperation) := by
  rw [parseCharacters]
  dsimp only
  split
  · rfl
  · split
    · rename_i unsplit
      rw [unsplit]
    · rename_i split
      rw [split]
      dsimp only
      split
      · rfl
      · simp

/-- The expression that a text stands for if it is a literal or a name. -/
def atomOf (text : List Char) : Expression :=
  match literal? text with
  | some value => .constant value
  | none => .reference (String.ofList text)

theorem IsAtom.eq_atomOf
    {text : List Char}
    {expression : Expression}
    (atom : IsAtom text expression) :
    expression = atomOf text := by
  cases atom with
  | literal isLiteral =>
      rw [atomOf, literal?_eq_some_iff.mpr isLiteral]
  | name isName =>
      rw [atomOf, literal?_eq_none_iff.mpr isName.2.2]

/-- Every operand is a literal or a name. -/
def IsReadable (formula : FlatFormula (List Char)) : Prop :=
  ∀ operand ∈ formula.operands, ∃ expression, IsAtom operand expression

/-- A formula is readable exactly if all its parts are. -/
theorem isReadable_iff_forall_parts
    (operator : Operator)
    (formula : FlatFormula (List Char)) :
    IsReadable formula ↔ ∀ part ∈ formula.parts operator, IsReadable part := by
  simp only [IsReadable, ← FlatFormula.flatMap_operands_parts operator formula,
    List.mem_flatMap]
  constructor
  · intro readable part isPart operand member
    exact readable operand ⟨part, isPart, member⟩
  · rintro readable operand ⟨part, isPart, member⟩
    exact readable part isPart operand member

/-- Nothing at all is unreadable. -/
theorem not_isReadable_lex_nil :
    ¬ IsReadable (lex []) := by
  intro readable
  have nothing : [] ∈ (lex []).operands := by
    simp [lex, Lexer.initial, Lexer.finish, FlatFormula.operands, Text.trim,
      Text.trimStart, Text.trimEnd]
  obtain ⟨expression, atom⟩ := readable [] nothing
  obtain ⟨sign, body, shape, _, nonempty, _⟩ := atom.isOperand
  exact nonempty (List.append_eq_nil_iff.mp shape.symm).2

theorem trim_ne_nil_of_isReadable
    {text : List Char}
    (readable : IsReadable (lex text)) :
    Text.trim text ≠ [] := by
  intro blank
  rw [← lex_trim, blank] at readable
  exact not_isReadable_lex_nil readable

/-- An empty piece makes a formula unreadable. -/
theorem not_isReadable_of_nil_mem_pieces
    {operator : Operator}
    {text : List Char}
    (empty : [] ∈ pieces operator text) :
    ¬ IsReadable (lex text) := by
  intro readable
  have isPart : lex [] ∈ (lex text).parts operator := by
    rw [← map_lex_pieces]
    exact List.mem_map_of_mem empty
  exact not_isReadable_lex_nil
    ((isReadable_iff_forall_parts operator _).mp readable _ isPart)

/-- A text in which the lexer finds an operator is no token. -/
theorem token_of_mem_operators
    {operator : Operator}
    {text : List Char}
    (present : operator ∈ (lex text).operators) :
    token text = .error (.invalidToken (String.ofList text)) := by
  apply token_of_not_isAtom
  intro expression atom
  simp [lex_of_isOperand atom.isOperand] at present

/--
What parsing a text comes to: the grouped flat formula if all its operands are literals or names,
and otherwise the complaint about a token.
-/
def ParsesAs
    (order : List Operator)
    (text : List Char) : Prop :=
  (IsReadable (lex text) ∧
    parseCharacters Expression.build text =
      .ok (((lex text).map atomOf).group order)) ∨
  (¬ IsReadable (lex text) ∧
    ∃ part, parseCharacters Expression.build text = .error (.invalidToken part))

theorem ParsesAs.eq_ok
    {order : List Operator}
    {text : List Char}
    (parses : ParsesAs order text)
    (readable : IsReadable (lex text)) :
    parseCharacters Expression.build text =
      .ok (((lex text).map atomOf).group order) := by
  rcases parses with ⟨_, parsed⟩ | ⟨unreadable, _⟩
  · exact parsed
  · exact absurd readable unreadable

theorem ParsesAs.exists_invalidToken
    {order : List Operator}
    {text : List Char}
    (parses : ParsesAs order text)
    {cause : FormulaError}
    (failed : parseCharacters Expression.build text = .error cause) :
    ∃ part, cause = .invalidToken part := by
  rcases parses with ⟨_, parsed⟩ | ⟨_, part, complaint⟩
  · simp [parsed] at failed
  · rw [complaint] at failed
    exact ⟨part, (Except.error.inj failed).symm⟩

theorem parsesAs_of_no_operator
    {text : List Char}
    (ink : Text.trim text ≠ [])
    (noOperator : (lex text).operators = []) :
    ParsesAs [] text := by
  have whole : lex text = .single (Text.trim text) := lex_eq_single noOperator
  have unsplit : split? (Text.trim text) = none :=
    split?_eq_none (by rw [lex_trim, noOperator])
  have parsed :
      parseCharacters Expression.build text = token (Text.trim text) := by
    rw [parseCharacters_eq, if_neg (by simpa using ink), unsplit]
  have readable :
      IsReadable (lex text) ↔
        ∃ expression, IsAtom (Text.trim text) expression := by
    rw [whole]
    simp [IsReadable]
  rw [ParsesAs, parsed, readable]
  by_cases isToken : ∃ expression, IsAtom (Text.trim text) expression
  · obtain ⟨expression, atom⟩ := isToken
    refine Or.inl ⟨⟨expression, atom⟩, ?_⟩
    rw [token_eq_ok_iff.mpr atom, atom.eq_atomOf, whole]
    rfl
  · refine Or.inr ⟨isToken, String.ofList (Text.trim text), ?_⟩
    exact token_of_not_isAtom fun expression atom => isToken ⟨expression, atom⟩

/-! ## From the pieces to the whole -/

/-- Readable pieces that parse as they should make the trees of their flat formulas. -/
theorem mapM_parse_of_readable
    {order : List Operator}
    {texts : List (List Char)}
    (parse : ∀ text ∈ texts, ParsesAs order text)
    (readable : ∀ text ∈ texts, IsReadable (lex text)) :
    texts.mapM (parseCharacters Expression.build) =
      .ok (texts.map fun text => ((lex text).map atomOf).group order) :=
  mapM_eq_ok_map fun text member => (parse text member).eq_ok (readable text member)

/-- One unreadable piece makes the pieces fail with the complaint about a token. -/
theorem exists_mapM_parse_error
    {order : List Operator}
    {texts : List (List Char)}
    (parse : ∀ text ∈ texts, ParsesAs order text)
    {text : List Char}
    (member : text ∈ texts)
    (unreadable : ¬ IsReadable (lex text)) :
    ∃ part,
      texts.mapM (parseCharacters Expression.build) = .error (.invalidToken part) := by
  rcases parse text member with ⟨readable, _⟩ | ⟨_, part, failing⟩
  · exact absurd readable unreadable
  · have complaints :
        ∀ other ∈ texts, ∀ cause,
          parseCharacters Expression.build other = .error cause →
            ∃ token, cause = .invalidToken token :=
      fun other inside _ failed => (parse other inside).exists_invalidToken failed
    obtain ⟨cause, ⟨token, isToken⟩, allFail⟩ :=
      exists_mapM_eq_error complaints member failing
    rw [isToken] at allFail
    exact ⟨token, allFail⟩

section Split

variable
  {operator : Operator}
  {looser tighter : List Operator}
  (order : Operator.scanOrder = looser ++ operator :: tighter)
  {text : List Char}
  (ink : Text.trim text ≠ [])
  (noLooser : ∀ other ∈ looser, other ∉ (lex text).operators)
  (present : operator ∈ (lex text).operators)

include order ink noLooser present

/-- A text with an operator is a token if a piece is empty, and otherwise its pieces are parsed. -/
theorem parseCharacters_of_present :
    parseCharacters Expression.build text =
      if (pieces operator (Text.trim text)).any List.isEmpty then
        token (Text.trim text)
      else (do
        let operands ← (pieces operator (Text.trim text)).mapM
          (parseCharacters Expression.build)
        (Expression.build operator.name operands).mapError .invalidOperation) := by
  rw [← lex_trim] at noLooser present
  rw [parseCharacters_eq, if_neg (by simpa using ink),
    split?_eq_some order noLooser present]

theorem parsesAs_of_empty_piece
    (empty : [] ∈ pieces operator (Text.trim text)) :
    ParsesAs (operator :: tighter) text := by
  have anyEmpty : (pieces operator (Text.trim text)).any List.isEmpty = true :=
    List.any_eq_true.mpr ⟨[], empty, rfl⟩
  have parsed := parseCharacters_of_present order ink noLooser present
  rw [← lex_trim] at present
  rw [if_pos anyEmpty, token_of_mem_operators present] at parsed
  rw [ParsesAs, ← lex_trim]
  exact Or.inr ⟨not_isReadable_of_nil_mem_pieces empty, _, parsed⟩

/-- If the pieces of a text parse as they should, then so does the text. -/
theorem parsesAs_of_pieces
    (noneEmpty : [] ∉ pieces operator (Text.trim text))
    (piecesParse :
      ∀ piece ∈ pieces operator (Text.trim text), ParsesAs tighter piece) :
    ParsesAs (operator :: tighter) text := by
  have notAnyEmpty : ¬ (pieces operator (Text.trim text)).any List.isEmpty = true := by
    intro anyEmpty
    obtain ⟨piece, member, isEmpty⟩ := List.any_eq_true.mp anyEmpty
    exact noneEmpty (List.isEmpty_iff.mp isEmpty ▸ member)
  have parsed := parseCharacters_of_present order ink noLooser present
  rw [if_neg notAnyEmpty] at parsed
  have readable :
      IsReadable (lex (Text.trim text)) ↔
        ∀ piece ∈ pieces operator (Text.trim text), IsReadable (lex piece) := by
    rw [isReadable_iff_forall_parts operator, ← map_lex_pieces, List.forall_mem_map]
  rw [← lex_trim] at present
  rw [ParsesAs, ← lex_trim, readable]
  by_cases allReadable :
      ∀ piece ∈ pieces operator (Text.trim text), IsReadable (lex piece)
  · refine Or.inl ⟨allReadable, ?_⟩
    have trees :
        ((pieces operator (Text.trim text)).map fun piece =>
            ((lex piece).map atomOf).group tighter) =
          ((lex (Text.trim text)).parts operator).map fun part =>
            (part.map atomOf).group tighter := by
      rw [← map_lex_pieces, List.map_map]
      rfl
    have occurs : operator ∈ ((lex (Text.trim text)).map atomOf).operators := by
      rw [FlatFormula.operators_map]
      exact present
    rw [parsed, mapM_parse_of_readable piecesParse allReadable, trees,
      FlatFormula.group_cons_of_mem occurs, FlatFormula.cut_map]
    simp [FlatFormula.parts, Expression.build_name_cons, Function.comp_def, bind, Except.bind]
    rfl
  · refine Or.inr ⟨allReadable, ?_⟩
    simp only [not_forall] at allReadable
    obtain ⟨piece, member, unreadable⟩ := allReadable
    obtain ⟨token, fails⟩ := exists_mapM_parse_error piecesParse member unreadable
    refine ⟨token, ?_⟩
    rw [parsed, fails]
    rfl

end Split

/--
Every text parses as its flat formula, grouped at the operators from one place of the order on, if
it has none of the operators before that place.
-/
theorem parsesAs
    {looser order : List Operator}
    (whole : Operator.scanOrder = looser ++ order)
    {text : List Char}
    (ink : Text.trim text ≠ [])
    (noLooser : ∀ other ∈ looser, other ∉ (lex text).operators) :
    ParsesAs order text := by
  induction order generalizing looser text with
  | nil =>
      rw [List.append_nil] at whole
      have noOperator : (lex text).operators = [] :=
        List.eq_nil_iff_forall_not_mem.mpr fun operator =>
          noLooser operator (whole ▸ Operator.mem_scanOrder operator)
      exact parsesAs_of_no_operator ink noOperator
  | cons operator tighter inductionHypothesis =>
      have next : Operator.scanOrder = (looser ++ [operator]) ++ tighter := by
        simpa using whole
      by_cases present : operator ∈ (lex text).operators
      · by_cases empty : [] ∈ pieces operator (Text.trim text)
        · exact parsesAs_of_empty_piece whole ink noLooser present empty
        refine parsesAs_of_pieces whole ink noLooser present empty ?_
        intro piece member
        have isPart : lex piece ∈ (lex text).parts operator := by
          rw [← lex_trim text, ← map_lex_pieces]
          exact List.mem_map_of_mem member
        apply inductionHypothesis next
        · rw [trim_of_mem_piecesFrom member]
          exact fun isEmpty => empty (isEmpty ▸ member)
        · intro other inLooser
          rcases List.mem_append.mp inLooser with isLooser | isOperator
          · exact fun inside => noLooser other isLooser
              (FlatFormula.mem_operators_of_mem_parts isPart inside)
          · rw [List.mem_singleton.mp isOperator]
            exact FlatFormula.not_mem_operators_of_mem_parts isPart
      · have later : ParsesAs tighter text := by
          apply inductionHypothesis next ink
          intro other inLooser
          rcases List.mem_append.mp inLooser with isLooser | isOperator
          · exact noLooser other isLooser
          · rw [List.mem_singleton.mp isOperator]
            exact present
        have absent : operator ∉ ((lex text).map atomOf).operators := by
          rw [FlatFormula.operators_map]
          exact present
        rw [ParsesAs, FlatFormula.group_cons_of_not_mem absent]
        exact later

/-! ## What a text denotes -/

/--
The expression that a text stands for: nothing if it is blank, and otherwise the operands that the
lexer finds, each a literal or a name, grouped by the order of the operators.
-/
def Denotes
    (text : List Char)
    (expression : Expression) : Prop :=
  (Text.trim text = [] ∧ expression = .empty) ∨
  (Text.trim text ≠ [] ∧
    ∃ atoms : FlatFormula Expression,
      (lex (Text.trim text)).Related IsAtom atoms ∧
        expression = atoms.group Operator.scanOrder)

theorem IsAtom.of_exists
    {text : List Char}
    (isAtom : ∃ expression, IsAtom text expression) :
    IsAtom text (atomOf text) := by
  obtain ⟨expression, atom⟩ := isAtom
  rw [← atom.eq_atomOf]
  exact atom

theorem related_isAtom_iff
    {formula : FlatFormula (List Char)}
    {atoms : FlatFormula Expression} :
    formula.Related IsAtom atoms ↔
      IsReadable formula ∧ atoms = formula.map atomOf := by
  obtain ⟨earlier, last⟩ := formula
  obtain ⟨earlierAtoms, lastAtom⟩ := atoms
  simp only [FlatFormula.Related, IsReadable, FlatFormula.operands,
    FlatFormula.map, FlatFormula.mk.injEq, List.mem_append, List.mem_map,
    List.mem_singleton]
  constructor
  · rintro ⟨earlierRelated, lastRelated⟩
    have sameEarlier :
        earlierAtoms = earlier.map fun entry => (atomOf entry.1, entry.2) := by
      induction earlierRelated with
      | nil =>
          rfl
      | cons headRelated _ inductionHypothesis =>
          obtain ⟨atom, sameOperator⟩ := headRelated
          rw [List.map_cons, ← inductionHypothesis, ← atom.eq_atomOf, sameOperator]
    refine ⟨?_, sameEarlier, lastRelated.eq_atomOf⟩
    rintro operand (⟨entry, member, rfl⟩ | rfl)
    · rw [sameEarlier, List.forall₂_map_right_iff, List.forall₂_same] at earlierRelated
      exact ⟨_, (earlierRelated entry member).1⟩
    · exact ⟨_, lastRelated⟩
  · rintro ⟨readable, rfl, rfl⟩
    constructor
    · rw [List.forall₂_map_right_iff, List.forall₂_same]
      intro entry member
      exact ⟨.of_exists (readable entry.1 (Or.inl ⟨entry, member, rfl⟩)), rfl⟩
    · exact .of_exists (readable last (Or.inr rfl))

/-- A text parses as an expression exactly if it denotes it. -/
theorem parse_eq_ok_iff
    {text : String}
    {expression : Expression} :
    parse text = .ok expression ↔ Denotes text.toList expression := by
  rw [parse, parseWith, Denotes]
  by_cases blank : Text.trim text.toList = []
  · rw [parseCharacters_eq, if_pos (by simpa using blank)]
    simp [blank, eq_comm]
  · have outcome :=
      parsesAs (List.nil_append Operator.scanOrder).symm blank (by simp)
    simp only [blank, false_and, false_or, ne_eq, not_false_eq_true,
      true_and, related_isAtom_iff, lex_trim]
    rcases outcome with ⟨readable, parsed⟩ | ⟨unreadable, part, failed⟩
    · rw [parsed]
      simp [readable, eq_comm]
    · rw [failed]
      simp [unreadable]

/-- A text is parsed by grouping the literals and names that the lexer finds. -/
theorem parse_of_related
    {text : String}
    {atoms : FlatFormula Expression}
    (related : (lex text.toList).Related IsAtom atoms) :
    parse text = .ok (atoms.group Operator.scanOrder) := by
  have readable : IsReadable (lex text.toList) := (related_isAtom_iff.mp related).1
  rw [← lex_trim] at related
  exact parse_eq_ok_iff.mpr
    (Or.inr ⟨trim_ne_nil_of_isReadable readable, atoms, related, rfl⟩)

/-- A text that is one literal or name is read as such. -/
theorem parse_of_isAtom
    {text : String}
    {expression : Expression}
    (atom : IsAtom text.toList expression) :
    parse text = .ok expression := by
  have related : (lex text.toList).Related IsAtom (.single expression) := by
    rw [lex_of_isOperand atom.isOperand]
    exact ⟨.nil, atom⟩
  exact parse_of_related related

theorem parse_of_isName
    {name : String}
    (isName : IsName name.toList) :
    parse name = .ok (.reference name) := by
  have atom := IsAtom.name isName
  rw [String.ofList_toList] at atom
  exact parse_of_isAtom atom

/-- The only complaint of the parser is about a token. -/
theorem exists_invalidToken_of_parse_eq_error
    {text : String}
    {cause : FormulaError}
    (failed : parse text = .error cause) :
    ∃ part, cause = .invalidToken part := by
  rw [parse, parseWith] at failed
  by_cases blank : Text.trim text.toList = []
  · simp [parseCharacters_eq, if_pos (by simpa using blank)] at failed
  · have outcome :=
      parsesAs (List.nil_append Operator.scanOrder).symm blank (by simp)
    exact outcome.exists_invalidToken failed

/-- Blanks around an operator do not change what a text denotes. -/
theorem denotes_insert_blanks
    {before left right : List Char}
    {operator : Operator}
    (leftBlank : Text.IsBlankText left)
    (rightBlank : Text.IsBlankText right)
    (written :
      operatorAfter? (lastInk? before) operator.symbol = some operator)
    (after : List Char)
    (expression : Expression) :
    Denotes (before ++ left ++ operator.symbol :: (right ++ after)) expression ↔
      Denotes (before ++ operator.symbol :: after) expression := by
  have ink : ∀ first later : List Char,
      Text.trim (first ++ operator.symbol :: later) ≠ [] := by
    intro first later blank
    have isBlank := Text.trim_eq_nil_iff.mp blank operator.symbol (by simp)
    simp [isBlank_symbol] at isBlank
  simp only [Denotes, ink, ne_eq, lex_trim,
    lex_insert_blanks leftBlank rightBlank written after]

/--
Parsing is one pass of lexing and grouping: a text parses as an expression exactly if it denotes
it, and the parser complains about a token exactly if the text denotes nothing, so there is no
other complaint. Blanks on either side of an operator make no difference to the expression.
-/
theorem parse_lexes_and_groups :
    (∀ (text : String) (expression : Expression),
      parse text = .ok expression ↔ Denotes text.toList expression) ∧
    (∀ text : String,
      (∃ part, parse text = .error (.invalidToken part)) ↔
        ∀ expression, ¬ Denotes text.toList expression) ∧
    (∀ (before left right after : List Char) (operator : Operator),
      Text.IsBlankText left →
      Text.IsBlankText right →
      operatorAfter? (lastInk? before) operator.symbol = some operator →
      ∀ expression,
        parse (String.ofList (before ++ left ++ operator.symbol :: (right ++ after))) =
            .ok expression ↔
          parse (String.ofList (before ++ operator.symbol :: after)) =
            .ok expression) := by
  refine ⟨fun _ _ => parse_eq_ok_iff, ?_, ?_⟩
  · intro text
    simp only [← parse_eq_ok_iff]
    constructor
    · rintro ⟨part, failed⟩ expression parsed
      simp [failed] at parsed
    · intro nothing
      cases outcome : parse text with
      | ok expression =>
          exact absurd outcome (nothing expression)
      | error cause =>
          obtain ⟨part, isToken⟩ := exists_invalidToken_of_parse_eq_error outcome
          exact ⟨part, by rw [isToken]⟩
  · intro before left right after operator leftBlank rightBlank written expression
    rw [parse_eq_ok_iff, parse_eq_ok_iff, String.toList_ofList,
      String.toList_ofList]
    exact denotes_insert_blanks leftBlank rightBlank written after expression

theorem parse_spaced_product :
    ∀ expression,
      parse "2 \u3000* -4" = .ok expression ↔ parse "2*-4" = .ok expression := by
  have leftBlank : Text.IsBlankText [' ', '\u3000'] := List.all_eq_true.mp (by decide)
  have rightBlank : Text.IsBlankText [' '] := List.all_eq_true.mp (by decide)
  exact parse_lexes_and_groups.right.right ['2'] [' ', '\u3000'] [' '] ['-', '4'] .times
    leftBlank rightBlank (by decide)

end Spreadsheet.Formula
