import Spreadsheet.Proofs.Expression
import Spreadsheet.Proofs.Formula.Grouping

namespace Spreadsheet

/-!
# Texts of expressions

The text of an expression has no parentheses, so it shows the leaves of the tree with operators
between them and no more. Parsing the text gives these leaves again, grouped anew.
-/

namespace Expression

mutual

/-- The leaves of an expression from left to right, with the operators between them. -/
def flatten : Expression → FlatFormula Expression
  | .constant value => .single (.constant value)
  | .reference name => .single (.reference name)
  | .empty => .single .empty
  | .operation operator first rest => flattenOperands operator first.flatten rest

/-- A flat formula and the leaves of operands after it. -/
def flattenOperands
    (operator : Operator)
    (formula : FlatFormula Expression) :
    List Expression → FlatFormula Expression
  | [] => formula
  | operand :: later =>
      formula.glue operator (flattenOperands operator operand.flatten later)

end

theorem flattenOperands_eq_glueAll
    (operator : Operator)
    (formula : FlatFormula Expression)
    (operands : List Expression) :
    flattenOperands operator formula operands =
      formula.glueAll operator (operands.map flatten) := by
  induction operands generalizing formula with
  | nil =>
      rfl
  | cons operand later inductionHypothesis =>
      rw [flattenOperands, inductionHypothesis]
      rfl

/-- An operation is flattened by putting its operator between the flattened operands. -/
theorem flatten_operation
    (operator : Operator)
    (first : Expression)
    (rest : List Expression) :
    (Expression.operation operator first rest).flatten =
      first.flatten.glueAll operator (rest.map flatten) := by
  rw [flatten, flattenOperands_eq_glueAll]

/-- The operands of a flattened operation are those of its operands, in order. -/
theorem operands_flatten_operation
    (operator : Operator)
    (first : Expression)
    (rest : List Expression) :
    (Expression.operation operator first rest).flatten.operands =
      (first :: rest).flatMap fun operand => operand.flatten.operands := by
  rw [flatten_operation, FlatFormula.operands_glueAll, ← List.map_cons,
    List.flatMap_map]

/--
The expression can be spelled: its leaves are constants and references to names, and no part of it
is empty. Its operations may be nested in any way and have one operand or more.
-/
inductive IsSpellable : Expression → Prop where
  | constant (value : Int64) :
      IsSpellable (.constant value)
  | reference {name : String} :
      Formula.IsName name.toList →
      IsSpellable (.reference name)
  | operation {operator : Operator} {first : Expression} {rest : List Expression} :
      (∀ operand ∈ first :: rest, IsSpellable operand) →
      IsSpellable (.operation operator first rest)

end Expression

namespace FlatFormula

/-- The text of a flat formula, with a space on either side of each operator. -/
def spell (formula : FlatFormula (List Char)) : List Char :=
  (formula.earlier.flatMap fun entry =>
      entry.1 ++ [' ', entry.2.symbol, ' ']) ++
    formula.last

/-- Two formulas put together are spelled with the operator between them. -/
theorem spell_glue
    (operator : Operator)
    (left right : FlatFormula (List Char)) :
    (glue operator left right).spell =
      left.spell ++ [' ', operator.symbol, ' '] ++ right.spell := by
  simp [spell, glue]

theorem spell_map_glueAll
    {α : Type}
    (text : α → List Char)
    (operator : Operator)
    (first : FlatFormula α)
    (others : List (FlatFormula α)) :
    ((glueAll operator first others).map text).spell =
      (first.map text).spell ++
        others.flatMap fun other =>
          [' ', operator.symbol, ' '] ++ (other.map text).spell := by
  induction others generalizing first with
  | nil =>
      simp [glueAll]
  | cons next later inductionHypothesis =>
      rw [glueAll, map_glue, spell_glue, inductionHypothesis,
        List.flatMap_cons]
      simp only [List.append_assoc]

end FlatFormula

namespace Formula

/-- The text of an expression is the text of its leaves. -/
theorem spell_flatten
    (expression : Expression) :
    (expression.flatten.map Expression.characters).spell =
      expression.characters := by
  induction expression using Expression.inductionOnOperands with
  | constant value =>
      rfl
  | reference name =>
      rfl
  | empty =>
      rfl
  | operation operator first rest inductionHypothesis =>
      rw [Expression.flatten_operation, FlatFormula.spell_map_glueAll,
        Expression.characters, Expression.charactersOfOperands_eq_flatMap,
        inductionHypothesis first (by simp), List.flatMap_map]
      congr 1
      apply List.flatMap_congr
      intro operand member
      rw [inductionHypothesis operand (List.mem_cons_of_mem _ member)]

/-- The last character of an operand is not blank and writes no operator. -/
theorem IsOperand.exists_lastInk?
    {text : List Char}
    (operand : IsOperand text) :
    ∃ last, lastInk? text = some last ∧ isSymbol last = false := by
  have awaits : Lexer.initial.previous.all isSymbol = true := rfl
  obtain ⟨last, notSymbol, read⟩ :=
    Lexer.foldl_step_of_isOperand awaits operand
  refine ⟨last, ?_, notSymbol⟩
  rw [← Lexer.previous_foldl_step, read]

/--
The text shows the operands and operators of the formula in their order, with any blanks around
them.
-/
inductive Shows : List Char → FlatFormula (List Char) → Prop where
  | single {left right : List Char} (operand : List Char) :
      Text.IsBlankText left →
      Text.IsBlankText right →
      Shows (left ++ operand ++ right) (.single operand)
  | cons {left right text : List Char} {formula : FlatFormula (List Char)}
      (operand : List Char) (operator : Operator) :
      Text.IsBlankText left →
      Text.IsBlankText right →
      Shows text formula →
      Shows (left ++ operand ++ right ++ operator.symbol :: text)
        (.cons operand operator formula)

/-- Blanks in front of a formula make no difference. -/
theorem Shows.prepend
    {blanks text : List Char}
    {formula : FlatFormula (List Char)}
    (blank : Text.IsBlankText blanks)
    (shows : Shows text formula) :
    Shows (blanks ++ text) formula := by
  cases shows with
  | single operand leftBlank rightBlank =>
      simpa using Shows.single operand (blank.append leftBlank) rightBlank
  | cons operand operator leftBlank rightBlank laterShows =>
      simpa using Shows.cons operand operator (blank.append leftBlank) rightBlank laterShows

/-- What has been spelled shows the formula. -/
theorem shows_spell
    (formula : FlatFormula (List Char)) :
    Shows formula.spell formula := by
  obtain ⟨earlier, last⟩ := formula
  have nothing : Text.IsBlankText [] := fun _ member => absurd member List.not_mem_nil
  have space : Text.IsBlankText [' '] := Text.isBlankText_singleton.mpr (by decide)
  induction earlier with
  | nil =>
      simpa [FlatFormula.spell, FlatFormula.single] using Shows.single last nothing nothing
  | cons entry rest inductionHypothesis =>
      obtain ⟨operand, operator⟩ := entry
      have shows := Shows.cons operand operator nothing space (inductionHypothesis.prepend space)
      simpa [FlatFormula.spell, FlatFormula.cons] using shows

theorem lex_of_isOperand_between_blanks
    {left operand right : List Char}
    (leftBlank : Text.IsBlankText left)
    (isOperand : IsOperand operand)
    (rightBlank : Text.IsBlankText right) :
    lex (left ++ operand ++ right) = .single operand := by
  rw [← lex_trim, Text.trim_append_of_isBlankText _ rightBlank,
    Text.trim_append_left_of_isBlankText leftBlank, lex_trim, lex_of_isOperand isOperand]

/-- The lexer finds the formula that a text shows. -/
theorem lex_of_shows
    {text : List Char}
    {formula : FlatFormula (List Char)}
    (shows : Shows text formula)
    (operands : ∀ operand ∈ formula.operands, IsOperand operand) :
    lex text = formula := by
  induction shows with
  | single operand leftBlank rightBlank =>
      have isOperand := operands operand (List.mem_singleton_self operand)
      exact lex_of_isOperand_between_blanks leftBlank isOperand rightBlank
  | @cons left right text formula operand operator leftBlank rightBlank _ inductionHypothesis =>
      have isOperand := operands operand (List.mem_cons_self ..)
      obtain ⟨ink, lastInk, notSymbol⟩ := isOperand.exists_lastInk?
      have written :
          operatorAfter? (lastInk? (left ++ operand ++ right)) operator.symbol =
            some operator := by
        rw [lastInk?_append_of_isBlankText _ rightBlank,
          lastInk?_append_left_of_isBlankText leftBlank, operatorAfter?_eq_some_iff, lastInk]
        simp [notSymbol]
      have laterLexed := inductionHypothesis fun other member =>
        operands other (List.mem_cons_of_mem _ member)
      rw [lex_append_cons written, lex_of_isOperand_between_blanks leftBlank isOperand rightBlank,
        laterLexed]
      rfl

/-- The expression is a constant or a name, and its text reads back as it. -/
def IsLeaf (expression : Expression) : Prop :=
  IsAtom expression.characters expression

theorem isLeaf_constant
    (value : Int64) :
    IsLeaf (.constant value) :=
  .literal (integer?_eq_some_iff.mp (Decimal.integer?_writeInteger value.toInt))

theorem isLeaf_reference_iff
    {name : String} :
    IsLeaf (.reference name) ↔ IsName name.toList := by
  rw [IsLeaf, Expression.characters]
  constructor
  · intro atom
    generalize name.toList = text at atom
    cases atom with
    | name isName =>
        exact isName
  · intro isName
    have atom := IsAtom.name isName
    rwa [String.ofList_toList] at atom

theorem IsAtom.isLeaf
    {text : List Char}
    {expression : Expression}
    (atom : IsAtom text expression) :
    IsLeaf expression := by
  cases atom with
  | literal _ =>
      exact isLeaf_constant _
  | name isName =>
      rw [isLeaf_reference_iff, String.toList_ofList]
      exact isName

/-- The leaves of an expression that can be spelled read back. -/
theorem isLeaf_of_mem_operands
    {expression leaf : Expression}
    (spellable : expression.IsSpellable)
    (member : leaf ∈ expression.flatten.operands) :
    IsLeaf leaf := by
  induction spellable with
  | constant value =>
      rw [List.mem_singleton.mp member]
      exact isLeaf_constant value
  | reference isName =>
      rw [List.mem_singleton.mp member]
      exact isLeaf_reference_iff.mpr isName
  | operation _ inductionHypothesis =>
      rw [Expression.operands_flatten_operation] at member
      obtain ⟨operand, isOperand, inOperand⟩ := List.mem_flatMap.mp member
      exact inductionHypothesis operand isOperand inOperand

/-- A text is parsed by grouping the literals and names that it shows. -/
theorem parse_of_shows
    {text : String}
    {formula : FlatFormula (List Char)}
    {atoms : FlatFormula Expression}
    (shows : Shows text.toList formula)
    (related : formula.Related IsAtom atoms) :
    parse text = .ok (atoms.group Operator.scanOrder) := by
  have operands : ∀ operand ∈ formula.operands, IsOperand operand := by
    intro operand member
    obtain ⟨expression, atom⟩ := (related_isAtom_iff.mp related).1 operand member
    exact atom.isOperand
  apply parse_of_related
  rwa [lex_of_shows shows operands]

/-- Parsing the text of an expression groups its leaves anew. -/
theorem parse_render
    {expression : Expression}
    (spellable : expression.IsSpellable) :
    parse expression.render =
      .ok (expression.flatten.group Operator.scanOrder) := by
  have leaves : ∀ leaf ∈ expression.flatten.operands, IsLeaf leaf :=
    fun leaf member => isLeaf_of_mem_operands spellable member
  have shows :
      Shows expression.render.toList (expression.flatten.map Expression.characters) := by
    rw [Expression.render, String.toList_ofList, ← spell_flatten]
    exact shows_spell _
  apply parse_of_shows shows
  constructor
  · rw [FlatFormula.map, List.forall₂_map_left_iff, List.forall₂_same]
    intro entry member
    exact ⟨leaves entry.1 (List.mem_append_left _ (List.mem_map_of_mem member)), rfl⟩
  · exact leaves _ (FlatFormula.last_mem_operands _)

end Formula

end Spreadsheet
