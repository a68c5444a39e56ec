import Spreadsheet.Formula.Pieces
import Spreadsheet.Proofs.Formula.FlatFormula
import Spreadsheet.Proofs.Text.Trim
import Mathlib.Data.List.Induction

namespace Spreadsheet.Formula

/-!
# One-pass lexing of formulas

The lexer reads a text once, from left to right, and tells operators from signs by the last
character before them that is not blank. This module shows that cutting a text at one operator
yields the parts of its flat formula: whether a plus or minus is a sign does not depend on where a
piece begins.
-/

/-- The character writes an operator. -/
def isSymbol (character : Char) : Bool :=
  (Operator.ofSymbol? character).isSome

/-- The last character of a text that is not blank. -/
def lastInk? (text : List Char) : Option Char :=
  (text.filter fun character => !Text.isBlank character).getLast?

/--
The operator that a character writes when the last character before it that is not blank is the
given one, or when there is none. A plus or minus after an operator, or after nothing, is a sign.
-/
def operatorAfter?
    (previous : Option Char)
    (character : Char) : Option Operator :=
  (Operator.ofSymbol? character).filter fun operator =>
    !(operator.isSign && previous.all isSymbol)

/--
What the lexer keeps of the text that it has read: the operands before the last operator, each
with the operator after it, the characters after the last operator, and the last character that is
not blank.
-/
structure Lexer where
  closed : List (List Char × Operator)
  current : List Char
  previous : Option Char
  deriving Repr, DecidableEq

namespace Lexer

/-- Nothing has been read. -/
def initial : Lexer :=
  ⟨[], [], none⟩

/-- Reads one character. -/
def step
    (lexer : Lexer)
    (character : Char) : Lexer :=
  let previous := if Text.isBlank character then lexer.previous else some character
  match operatorAfter? lexer.previous character with
  | some operator =>
      ⟨lexer.closed ++ [(Text.trim lexer.current, operator)], [], previous⟩
  | none =>
      ⟨lexer.closed, lexer.current ++ [character], previous⟩

/-- The trimmed operands and the operators of the text that has been read. -/
def finish (lexer : Lexer) : FlatFormula (List Char) :=
  ⟨lexer.closed, Text.trim lexer.current⟩

end Lexer

/-- The trimmed operands and the operators of a text. -/
def lex (text : List Char) : FlatFormula (List Char) :=
  (text.foldl Lexer.step .initial).finish

/-! ## Characters that write operators -/

theorem ofSymbol?_eq_some_iff
    {character : Char}
    {operator : Operator} :
    Operator.ofSymbol? character = some operator ↔ character = operator.symbol := by
  constructor
  · intro found
    exact (Operator.symbol_of_ofSymbol?_eq_some found).symm
  · intro same
    rw [same, Operator.ofSymbol?_symbol]

theorem isBlank_symbol
    (operator : Operator) :
    Text.isBlank operator.symbol = false := by
  cases operator <;> decide

/-- A blank is no operator. -/
theorem ofSymbol?_of_isBlank
    {character : Char}
    (blank : Text.isBlank character = true) :
    Operator.ofSymbol? character = none := by
  cases found : Operator.ofSymbol? character with
  | none =>
      rfl
  | some operator =>
      simp [ofSymbol?_eq_some_iff.mp found, isBlank_symbol] at blank

theorem operatorAfter?_of_ofSymbol?_eq_none
    {character : Char}
    (noSymbol : Operator.ofSymbol? character = none)
    (previous : Option Char) :
    operatorAfter? previous character = none := by
  rw [operatorAfter?, noSymbol]
  rfl

theorem operatorAfter?_eq_some_iff
    {previous : Option Char}
    {character : Char}
    {operator : Operator} :
    operatorAfter? previous character = some operator ↔
      character = operator.symbol ∧
        (operator.isSign && previous.all isSymbol) = false := by
  rw [operatorAfter?, Option.filter_eq_some_iff, ofSymbol?_eq_some_iff,
    Bool.not_eq_true']

/-! ## The state of the lexer -/

namespace Lexer

/-- The lexer with more operands and operators in front. -/
def behind
    (front : List (List Char × Operator))
    (lexer : Lexer) : Lexer :=
  { lexer with closed := front ++ lexer.closed }

theorem step_behind
    (front : List (List Char × Operator))
    (lexer : Lexer)
    (character : Char) :
    (lexer.behind front).step character =
      (lexer.step character).behind front := by
  simp only [step, behind]
  split <;> simp

/-- What has been closed does not influence what is read later. -/
theorem foldl_step_behind
    (front : List (List Char × Operator))
    (lexer : Lexer)
    (text : List Char) :
    text.foldl step (lexer.behind front) =
      (text.foldl step lexer).behind front := by
  induction text generalizing lexer with
  | nil =>
      rfl
  | cons character later inductionHypothesis =>
      rw [List.foldl_cons, List.foldl_cons, step_behind,
        inductionHypothesis]

/--
Two lexers that will read the same from now on: blanks at the beginning of the open operand, and
which operator stands before it, make no difference.
-/
structure Agree (first second : Lexer) : Prop where
  closed : first.closed = second.closed
  current :
    ∀ later,
      Text.trim (first.current ++ later) =
        Text.trim (second.current ++ later)
  previous : first.previous.all isSymbol = second.previous.all isSymbol

theorem Agree.trim_current
    {first second : Lexer}
    (agree : Agree first second) :
    Text.trim first.current = Text.trim second.current := by
  simpa using agree.current []

theorem Agree.operatorAfter?
    {first second : Lexer}
    (agree : Agree first second)
    (character : Char) :
    operatorAfter? first.previous character =
      Formula.operatorAfter? second.previous character := by
  simp only [Formula.operatorAfter?, agree.previous]

theorem Agree.step
    {first second : Lexer}
    (agree : Agree first second)
    (character : Char) :
    Agree (first.step character) (second.step character) := by
  have previous :
      (if Text.isBlank character then first.previous
          else some character).all isSymbol =
        (if Text.isBlank character then second.previous
          else some character).all isSymbol := by
    split
    · exact agree.previous
    · rfl
  simp only [Lexer.step, agree.operatorAfter?]
  split
  · exact
      { closed := by rw [agree.closed, agree.trim_current]
        current := fun _ => rfl
        previous := previous }
  · exact
      { closed := agree.closed
        current := fun later => by
          simpa using agree.current (character :: later)
        previous := previous }

theorem Agree.foldl_step
    {first second : Lexer}
    (agree : Agree first second)
    (text : List Char) :
    Agree (text.foldl Lexer.step first) (text.foldl Lexer.step second) := by
  induction text generalizing first second with
  | nil =>
      exact agree
  | cons character later inductionHypothesis =>
      exact inductionHypothesis (agree.step character)

theorem Agree.finish_eq
    {first second : Lexer}
    (agree : Agree first second) :
    first.finish = second.finish := by
  rw [finish, finish, agree.closed, agree.trim_current]

/-- Blanks are added to the open operand. -/
theorem foldl_step_of_isBlankText
    (lexer : Lexer)
    {blanks : List Char}
    (blank : Text.IsBlankText blanks) :
    blanks.foldl step lexer =
      { lexer with current := lexer.current ++ blanks } := by
  induction blanks generalizing lexer with
  | nil =>
      simp
  | cons character later inductionHypothesis =>
      have isBlank := blank character (by simp)
      have laterBlank : Text.IsBlankText later :=
        fun other member => blank other (List.mem_cons_of_mem _ member)
      rw [List.foldl_cons, inductionHypothesis _ laterBlank]
      simp [step, isBlank,
        operatorAfter?_of_ofSymbol?_eq_none (ofSymbol?_of_isBlank isBlank)]

/-- The lexer remembers the last character that is not blank. -/
theorem previous_foldl_step
    (text : List Char) :
    (text.foldl step initial).previous = lastInk? text := by
  induction text using List.reverseRecOn with
  | nil =>
      rfl
  | append_singleton earlier character inductionHypothesis =>
      rw [List.foldl_append, List.foldl_cons, List.foldl_nil]
      have updated :
          ((earlier.foldl step initial).step character).previous =
            if Text.isBlank character then
              (earlier.foldl step initial).previous
            else
              some character := by
        simp only [step]
        split <;> rfl
      rw [updated, inductionHypothesis]
      split
      · rename_i isBlank
        simp [lastInk?, isBlank]
      · rename_i notBlank
        simp [lastInk?, notBlank]

end Lexer

/-! ## Blanks that make no difference -/

/-- Blanks at the ends of a text are not seen by the lexer. -/
theorem lex_trim
    (text : List Char) :
    lex (Text.trim text) = lex text := by
  obtain ⟨leading, trailing, leadingBlank, trailingBlank, shape⟩ :=
    Text.exists_eq_append_trim_append text
  have started :
      Lexer.Agree .initial (leading.foldl Lexer.step .initial) := by
    rw [Lexer.foldl_step_of_isBlankText _ leadingBlank]
    exact
      { closed := rfl
        current := fun later =>
          (Text.trim_append_left_of_isBlankText leadingBlank later).symm
        previous := rfl }
  have inside := started.foldl_step (Text.trim text)
  conv_rhs => rw [shape]
  rw [lex, lex, List.foldl_append, List.foldl_append,
    Lexer.foldl_step_of_isBlankText _ trailingBlank, inside.finish_eq]
  simp only [Lexer.finish, Text.trim_append_of_isBlankText _ trailingBlank]

/-- What an operator leaves behind: it closes the open operand, and nothing is read after it. -/
theorem Lexer.step_of_operatorAfter?_eq_some
    {lexer : Lexer}
    {character : Char}
    {operator : Operator}
    (written : operatorAfter? lexer.previous character = some operator) :
    lexer.step character =
      Lexer.behind (lexer.closed ++ [(Text.trim lexer.current, operator)])
        ⟨[], [], some operator.symbol⟩ := by
  have isIt : character = operator.symbol :=
    (operatorAfter?_eq_some_iff.mp written).1
  rw [isIt] at written ⊢
  simp [Lexer.step, Lexer.behind, written, isBlank_symbol]

/-- After an operator the lexer reads as it does at the beginning of a text. -/
theorem Lexer.agree_initial_after_symbol
    (operator : Operator) :
    Lexer.Agree ⟨[], [], some operator.symbol⟩ .initial :=
  { closed := rfl
    current := fun _ => rfl
    previous := by
      simp [initial, isSymbol, Operator.ofSymbol?_symbol] }

/-- An operator splits the flat formula of a text at the place where it stands. -/
theorem lex_append_cons
    {before : List Char}
    {character : Char}
    {operator : Operator}
    (written : operatorAfter? (lastInk? before) character = some operator)
    (after : List Char) :
    lex (before ++ character :: after) =
      (lex before).glue operator (lex after) := by
  have occurs :
      operatorAfter? (before.foldl Lexer.step .initial).previous character =
        some operator := by
    rw [Lexer.previous_foldl_step, written]
  have rest :=
    ((Lexer.agree_initial_after_symbol operator).foldl_step after).finish_eq
  simp only [Lexer.finish, FlatFormula.mk.injEq] at rest
  rw [lex, List.foldl_append, List.foldl_cons,
    Lexer.step_of_operatorAfter?_eq_some occurs, Lexer.foldl_step_behind]
  simp [Lexer.finish, Lexer.behind, lex, FlatFormula.glue, rest]

theorem filter_isInk_of_isBlankText
    {blanks : List Char}
    (blank : Text.IsBlankText blanks) :
    blanks.filter (fun character => !Text.isBlank character) = [] := by
  rw [List.filter_eq_nil_iff]
  intro character member
  simp [blank character member]

/-- Blanks after a text leave its last character that is not blank. -/
theorem lastInk?_append_of_isBlankText
    (text : List Char)
    {blanks : List Char}
    (blank : Text.IsBlankText blanks) :
    lastInk? (text ++ blanks) = lastInk? text := by
  rw [lastInk?, List.filter_append, filter_isInk_of_isBlankText blank, List.append_nil, lastInk?]

theorem lastInk?_append_left_of_isBlankText
    {blanks : List Char}
    (blank : Text.IsBlankText blanks)
    (text : List Char) :
    lastInk? (blanks ++ text) = lastInk? text := by
  rw [lastInk?, List.filter_append, filter_isInk_of_isBlankText blank, List.nil_append, lastInk?]

/-- Blanks on either side of an operator are not seen by the lexer. -/
theorem lex_insert_blanks
    {before left right : List Char}
    {operator : Operator}
    (leftBlank : Text.IsBlankText left)
    (rightBlank : Text.IsBlankText right)
    (written :
      operatorAfter? (lastInk? before) operator.symbol = some operator)
    (after : List Char) :
    lex (before ++ left ++ operator.symbol :: (right ++ after)) =
      lex (before ++ operator.symbol :: after) := by
  have sameInk := lastInk?_append_of_isBlankText before leftBlank
  have sameLeft : lex (before ++ left) = lex before := by
    rw [← lex_trim (before ++ left),
      Text.trim_append_of_isBlankText _ leftBlank, lex_trim]
  have sameRight : lex (right ++ after) = lex after := by
    rw [← lex_trim (right ++ after),
      Text.trim_append_left_of_isBlankText rightBlank, lex_trim]
  rw [lex_append_cons written after,
    lex_append_cons (sameInk ▸ written) (right ++ after),
    sameLeft, sameRight]

/-! ## Cutting a text at one operator -/

theorem lastInk?_reverse
    (reversed : List Char) :
    lastInk? reversed.reverse = (reversed.dropWhile Text.isBlank).head? := by
  rw [lastInk?, List.filter_reverse, List.getLast?_reverse]
  induction reversed with
  | nil =>
      rfl
  | cons first rest inductionHypothesis =>
      cases blank : Text.isBlank first <;>
        simp [blank, inductionHypothesis]

/-- An operand is still to come if the text is blank or its last character but blanks is a symbol. -/
theorem awaitsOperand_eq_all
    (reversed : List Char) :
    awaitsOperand reversed = (lastInk? reversed.reverse).all isSymbol := by
  rw [lastInk?_reverse, awaitsOperand]
  cases reversed.dropWhile Text.isBlank <;> rfl

/-- The local choice between operator and sign is the choice of the lexer. -/
theorem separates_eq_true_iff
    {operator : Operator}
    {reversed : List Char}
    {character : Char} :
    separates operator reversed character = true ↔
      operatorAfter? (lastInk? reversed.reverse) character = some operator := by
  rw [operatorAfter?_eq_some_iff, separates, awaitsOperand_eq_all, Bool.and_eq_true,
    beq_iff_eq, Bool.not_eq_true']

/-- The operators of a text that has been read with one more character. -/
theorem operators_lex_append_singleton
    {before : List Char}
    {character : Char}
    {operator : Operator}
    (absent : operator ∉ (lex before).operators)
    (other :
      operatorAfter? (lastInk? before) character ≠ some operator) :
    operator ∉ (lex (before ++ [character])).operators := by
  cases written : operatorAfter? (lastInk? before) character with
  | none =>
      have notWritten :
          operatorAfter? (before.foldl Lexer.step .initial).previous character =
            none := by
        rw [Lexer.previous_foldl_step, written]
      simpa [lex, Lexer.step, Lexer.finish, FlatFormula.operators,
        notWritten] using absent
  | some found =>
      rw [written] at other
      have different : operator ≠ found :=
        fun same => other (congrArg some same.symm)
      rw [lex_append_cons written, FlatFormula.operators_glue]
      simpa [lex, Lexer.initial, Lexer.finish, FlatFormula.operators,
        different] using absent

/--
The pieces of a text whose first piece has begun with some characters are, read by the lexer, the
parts of the flat formula of the whole text.
-/
theorem map_lex_piecesFrom
    {operator : Operator}
    {reversed : List Char}
    (absent : operator ∉ (lex reversed.reverse).operators)
    (text : List Char) :
    (piecesFrom operator reversed text).map lex =
      (lex (reversed.reverse ++ text)).parts operator := by
  induction text generalizing reversed with
  | nil =>
      rw [List.append_nil, FlatFormula.parts, FlatFormula.cut_of_not_mem absent]
      simp [piecesFrom, lex_trim]
  | cons character later inductionHypothesis =>
      rw [piecesFrom]
      split
      · rename_i cuts
        have written := separates_eq_true_iff.mp cuts
        have nothing : operator ∉ (lex [].reverse).operators := by
          simp [lex, Lexer.initial, Lexer.finish, FlatFormula.operators]
        have laterPieces := inductionHypothesis nothing
        rw [lex_append_cons written, FlatFormula.parts,
          FlatFormula.cut_glue absent, List.map_cons, lex_trim, laterPieces]
        rfl
      · rename_i continues
        have other := mt separates_eq_true_iff.mpr continues
        have stillAbsent :
            operator ∉ (lex (character :: reversed).reverse).operators := by
          rw [List.reverse_cons]
          exact operators_lex_append_singleton absent other
        rw [inductionHypothesis stillAbsent]
        simp

/-- The pieces of a text are, read by the lexer, the parts of its flat formula. -/
theorem map_lex_pieces
    (operator : Operator)
    (text : List Char) :
    (pieces operator text).map lex = (lex text).parts operator :=
  map_lex_piecesFrom (by simp [lex, Lexer.initial, Lexer.finish, FlatFormula.operators]) text

/-- Until the first operator the whole text is the open operand. -/
theorem Lexer.current_foldl_step
    {text : List Char}
    (nothingClosed : (text.foldl Lexer.step .initial).closed = []) :
    (text.foldl Lexer.step .initial).current = text := by
  induction text using List.reverseRecOn with
  | nil =>
      rfl
  | append_singleton earlier character inductionHypothesis =>
      rw [List.foldl_append, List.foldl_cons, List.foldl_nil] at nothingClosed ⊢
      cases written :
          operatorAfter? (earlier.foldl Lexer.step .initial).previous character with
      | none =>
          simp only [Lexer.step, written] at nothingClosed ⊢
          rw [inductionHypothesis nothingClosed]
      | some operator =>
          simp [Lexer.step, written] at nothingClosed

/-- A text without operators is one operand. -/
theorem lex_eq_single
    {text : List Char}
    (noOperator : (lex text).operators = []) :
    lex text = .single (Text.trim text) := by
  have nothingClosed : (text.foldl Lexer.step .initial).closed = [] :=
    List.map_eq_nil_iff.mp noOperator
  rw [lex, Lexer.finish, Lexer.current_foldl_step nothingClosed, nothingClosed]
  rfl

/-! ## The texts of operands -/

/-- At most one sign, and then characters of which none is blank and none writes an operator. -/
def IsOperand (text : List Char) : Prop :=
  ∃ sign body : List Char,
    text = sign ++ body ∧
      (sign = [] ∨ sign = ['+'] ∨ sign = ['-']) ∧
      body ≠ [] ∧
      ∀ character ∈ body,
        Text.isBlank character = false ∧ isSymbol character = false

/-- No character of an operand is blank. -/
theorem IsOperand.not_blank
    {text : List Char}
    (operand : IsOperand text) :
    ∀ character ∈ text, Text.isBlank character = false := by
  obtain ⟨sign, body, rfl, signs, _, ink⟩ := operand
  intro character member
  rcases List.mem_append.mp member with inSign | inBody
  · rcases signs with rfl | rfl | rfl
    · contradiction
    · have isSign := List.mem_singleton.mp inSign
      subst isSign
      decide
    · have isSign := List.mem_singleton.mp inSign
      subst isSign
      decide
  · exact (ink character inBody).1

/-- Characters that are neither blank nor symbols are added to the open operand. -/
theorem Lexer.foldl_step_of_ink
    (lexer : Lexer)
    {text : List Char}
    (ink :
      ∀ character ∈ text,
        Text.isBlank character = false ∧ isSymbol character = false) :
    text.foldl Lexer.step lexer =
      ⟨lexer.closed, lexer.current ++ text, text.getLast?.or lexer.previous⟩ := by
  induction text generalizing lexer with
  | nil =>
      simp
  | cons character later inductionHypothesis =>
      obtain ⟨notBlank, notSymbol⟩ := ink character (by simp)
      have noOperator : operatorAfter? lexer.previous character = none :=
        operatorAfter?_of_ofSymbol?_eq_none
          (Option.isNone_iff_eq_none.mp (Option.isSome_eq_false_iff.mp notSymbol)) _
      rw [List.foldl_cons,
        inductionHypothesis _ fun other member =>
          ink other (List.mem_cons_of_mem _ member)]
      simp only [Lexer.step, noOperator, notBlank, List.append_assoc,
        List.singleton_append, List.getLast?_cons]
      cases later.getLast? <;> rfl

/-- A plus or minus where an operand is awaited is added to the open operand. -/
theorem Lexer.foldl_step_of_sign
    {lexer : Lexer}
    (awaits : lexer.previous.all isSymbol = true)
    {sign : List Char}
    (signs : sign = [] ∨ sign = ['+'] ∨ sign = ['-']) :
    sign.foldl Lexer.step lexer =
      ⟨lexer.closed, lexer.current ++ sign, sign.getLast?.or lexer.previous⟩ := by
  have isSign :
      ∀ operator : Operator, operator.isSign = true →
        operatorAfter? lexer.previous operator.symbol = none := by
    intro operator canSign
    rw [operatorAfter?, Operator.ofSymbol?_symbol]
    simp [canSign, awaits]
  rcases signs with rfl | rfl | rfl
  · simp
  · have plus : operatorAfter? lexer.previous '+' = none := isSign .plus rfl
    have ink : Text.isBlank '+' = false := isBlank_symbol .plus
    simp [Lexer.step, plus, ink]
  · have minus : operatorAfter? lexer.previous '-' = none := isSign .minus rfl
    have ink : Text.isBlank '-' = false := isBlank_symbol .minus
    simp [Lexer.step, minus, ink]

/-- An operand is added to the open operand, and no sign can follow it. -/
theorem Lexer.foldl_step_of_isOperand
    {lexer : Lexer}
    (awaits : lexer.previous.all isSymbol = true)
    {text : List Char}
    (operand : IsOperand text) :
    ∃ last,
      isSymbol last = false ∧
        text.foldl Lexer.step lexer =
          ⟨lexer.closed, lexer.current ++ text, some last⟩ := by
  obtain ⟨sign, body, rfl, signs, nonempty, ink⟩ := operand
  refine ⟨body.getLast nonempty, (ink _ (List.getLast_mem nonempty)).2, ?_⟩
  rw [List.foldl_append, Lexer.foldl_step_of_sign awaits signs,
    Lexer.foldl_step_of_ink _ ink, List.getLast?_eq_some_getLast nonempty]
  simp

/-- The lexer finds no operator in an operand. -/
theorem lex_of_isOperand
    {text : List Char}
    (operand : IsOperand text) :
    lex text = .single text := by
  have awaits : Lexer.initial.previous.all isSymbol = true := rfl
  obtain ⟨last, _, read⟩ := Lexer.foldl_step_of_isOperand awaits operand
  rw [lex, read]
  simp [Lexer.finish, Lexer.initial, FlatFormula.single,
    Text.trim_eq_self_of_no_blank operand.not_blank]

end Spreadsheet.Formula
