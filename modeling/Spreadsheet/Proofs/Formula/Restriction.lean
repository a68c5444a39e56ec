import Spreadsheet.Proofs.Formula.Nesting
import Mathlib.Data.Set.Basic

namespace Spreadsheet

/-!
# Parsing with some operators refused

A builder can refuse operators by their names. The parser builds an operation after its operands have
been read from left to right, so of all operations of a formula it complains about the first in
post-order whose operator is refused. With none refused, the formula is read as by the usual builder.
-/

namespace Expression

mutual

/-- The operators of all operations in an expression, each after those of its operands. -/
def postorder : Expression → List Operator
  | .constant _ | .reference _ | .empty => []
  | .operation operator first rest =>
      first.postorder ++ postorderOfOperands rest ++ [operator]

/-- The operators of all operations in a list of operands. -/
def postorderOfOperands : List Expression → List Operator
  | [] => []
  | operand :: later => operand.postorder ++ postorderOfOperands later

end

theorem postorderOfOperands_eq_flatMap
    (operands : List Expression) :
    postorderOfOperands operands = operands.flatMap postorder := by
  induction operands with
  | nil =>
      rfl
  | cons operand later inductionHypothesis =>
      rw [postorderOfOperands, inductionHypothesis, List.flatMap_cons]

theorem postorder_operation
    (operator : Operator)
    (first : Expression)
    (rest : List Expression) :
    (Expression.operation operator first rest).postorder =
      (first :: rest).flatMap postorder ++ [operator] := by
  rw [postorder, postorderOfOperands_eq_flatMap, List.flatMap_cons]

theorem postorder_of_operator?_eq_none
    {expression : Expression}
    (noOperation : expression.operator? = none) :
    expression.postorder = [] := by
  cases expression with
  | operation operator first rest =>
      contradiction
  | _ =>
      rfl

/-- The builder refuses operators of the given names, and otherwise builds what is usual. -/
structure RefusesOnly
    (refused : Set String)
    (build : OperationBuilder) : Prop where
  refuses : ∀ name ∈ refused, ∀ operands, build name operands = .error (.unknownOperator name)
  builds : ∀ name ∉ refused, ∀ operands, build name operands = Expression.build name operands

theorem buildWithout_refusesOnly
    (refused : List String) :
    RefusesOnly {name | name ∈ refused} (buildWithout refused) where
  refuses _ isRefused _ := if_pos isRefused
  builds _ notRefused _ := if_neg notRefused

end Expression

namespace Formula

open Expression

section Restriction

variable
  {refused : Set String}
  [DecidablePred (· ∈ refused)]
  {α β : Type}

variable (refused) in
/-- The value, unless one of the operators is refused; the complaint is about the first that is. -/
def allow
    (operators : List Operator)
    (value : α) :
    Except FormulaError α :=
  match operators.find? fun operator => operator.name ∈ refused with
  | some operator => .error (.invalidOperation (.unknownOperator operator.name))
  | none => .ok value

variable (refused) in
/--
What a restricted parser may return where the usual parser returns the first outcome: a failure for
any failure, and for a value with some operators in it what is allowed.
-/
inductive Restricts
    (operators : α → List Operator) :
    Except FormulaError α → Except FormulaError α → Prop where
  | failed {cause restrictedCause : FormulaError} :
      Restricts operators (.error cause) (.error restrictedCause)
  | read {restricted : Except FormulaError α} (value : α) :
      restricted = allow refused (operators value) value →
      Restricts operators (.ok value) restricted

/-- What is done after a restricted outcome adds its operators after those already read. -/
theorem Restricts.bind
    {operators : α → List Operator}
    {allOperators : β → List Operator}
    {outcome restricted : Except FormulaError α}
    (restricts : Restricts refused operators outcome restricted)
    {next restrictedNext : α → Except FormulaError β}
    (laterOperators : α → β → List Operator)
    (nextRestricts :
      ∀ value, Restricts refused (laterOperators value) (next value) (restrictedNext value))
    (inOrder :
      ∀ value result, next value = .ok result →
        allOperators result = operators value ++ laterOperators value result) :
    Restricts refused allOperators (outcome >>= next) (restricted >>= restrictedNext) := by
  cases restricts with
  | failed =>
      exact .failed
  | read value isAllowed =>
      have order := inOrder value
      have later := nextRestricts value
      change Restricts refused allOperators (next value) (restricted >>= restrictedNext)
      cases refusal : (operators value).find? fun operator => operator.name ∈ refused with
      | some operator =>
          have stops : restricted =
              .error (.invalidOperation (.unknownOperator operator.name)) := by
            rw [isAllowed, allow, refusal]
          rw [stops]
          cases made : next value with
          | error cause =>
              exact .failed
          | ok result =>
              refine .read result ?_
              rw [allow, order result made, List.find?_append, refusal]
              rfl
      | none =>
          have continues : restricted = .ok value := by
            rw [isAllowed, allow, refusal]
          rw [continues]
          change Restricts refused allOperators (next value) (restrictedNext value)
          generalize next value = made, restrictedNext value = restrictedMade at order later ⊢
          cases later with
          | failed =>
              exact .failed
          | read result laterAllowed =>
              refine .read result ?_
              rw [laterAllowed, allow, allow, order result rfl, List.find?_append, refusal,
                Option.none_or]

theorem Restricts.refl
    {operators : α → List Operator}
    {outcome : Except FormulaError α}
    (noOperators : ∀ value, outcome = .ok value → operators value = []) :
    Restricts refused operators outcome outcome := by
  cases outcome with
  | error cause =>
      exact .failed
  | ok value =>
      refine .read value ?_
      rw [noOperators value rfl]
      rfl

/-- Operands are read from left to right, each with its operators in post-order. -/
theorem Restricts.mapM
    {operators : β → List Operator}
    {read restrictedRead : α → Except FormulaError β}
    {items : List α}
    (restricts : ∀ item ∈ items, Restricts refused operators (read item) (restrictedRead item)) :
    Restricts refused (List.flatMap operators) (items.mapM read) (items.mapM restrictedRead) := by
  induction items with
  | nil =>
      exact .refl fun value isValue => by
        cases isValue
        rfl
  | cons item later inductionHypothesis =>
      have laterRestricts := inductionHypothesis fun other member =>
        restricts other (List.mem_cons_of_mem _ member)
      rw [List.mapM_cons, List.mapM_cons]
      refine (restricts item (List.mem_cons_self ..)).bind
        (fun _ values => values.tail.flatMap operators) ?_ ?_
      · intro value
        refine laterRestricts.bind (fun _ _ => []) (fun values => .refl fun _ _ => rfl) ?_
        rintro values result ⟨⟩
        simp
      · intro value result made
        cases laterRead : later.mapM read with
        | error cause =>
            rw [laterRead] at made
            contradiction
        | ok values =>
            rw [laterRead] at made
            cases made
            rfl

/-- Building an operation adds its operator behind those of the operands. -/
theorem restricts_build
    {build : OperationBuilder}
    (refuses : RefusesOnly refused build)
    (operator : Operator)
    (operands : List Expression) :
    Restricts refused (fun _ => [operator])
      ((Expression.build operator.name operands).mapError .invalidOperation)
      ((build operator.name operands).mapError .invalidOperation) := by
  by_cases isRefused : operator.name ∈ refused
  · rw [refuses.refuses _ isRefused]
    cases operands with
    | nil =>
        rw [build_name_nil]
        exact .failed
    | cons first rest =>
        rw [build_name_cons]
        refine .read _ ?_
        simp [allow, isRefused, Except.mapError]
  · rw [refuses.builds _ isRefused]
    cases operands with
    | nil =>
        rw [build_name_nil]
        exact .failed
    | cons first rest =>
        rw [build_name_cons]
        refine .read _ ?_
        simp [allow, isRefused, Except.mapError]

/-- A restricted parser allows what the usual one reads, if none of it is refused. -/
theorem restricts_parseCharacters
    {build : OperationBuilder}
    (refuses : RefusesOnly refused build)
    (text : List Char) :
    Restricts refused postorder
      (parseCharacters Expression.build text) (parseCharacters build text) := by
  induction text using inductionOnCalls with
  | step text inductionHypothesis =>
      rcases read_at_once_or_from_pieces text with
        ⟨outcome, noOperation, read, -⟩ | ⟨operator, pieces, areCalls, read, -⟩
      · rw [read, read]
        exact .refl fun expression isRead =>
          postorder_of_operator?_eq_none (noOperation expression isRead)
      · have operandsRestrict := Restricts.mapM fun piece member =>
          inductionHypothesis piece (areCalls piece member)
        rw [read, read]
        refine operandsRestrict.bind (fun _ _ => [operator])
          (restricts_build refuses operator) ?_
        intro operands result built
        cases operands with
        | nil =>
            rw [build_name_nil] at built
            contradiction
        | cons first rest =>
            rw [build_name_cons] at built
            cases built
            exact postorder_operation operator first rest

theorem allow_eq_ok_iff
    {operators : List Operator}
    {value result : α} :
    allow refused operators value = .ok result ↔
      value = result ∧ ∀ operator ∈ operators, operator.name ∉ refused := by
  rw [allow]
  cases refusal : operators.find? fun operator => operator.name ∈ refused with
  | some operator =>
      have isRefused := List.find?_some refusal
      have member := List.mem_of_find?_eq_some refusal
      simp only [decide_eq_true_eq] at isRefused
      simp only [reduceCtorEq, false_iff, not_and, not_forall]
      exact fun _ => ⟨operator, member, not_not.mpr isRefused⟩
  | none =>
      have noneRefused := List.find?_eq_none.mp refusal
      simp only [decide_eq_true_eq] at noneRefused
      simp only [Except.ok.injEq]
      exact ⟨fun same => ⟨same, noneRefused⟩, fun both => both.1⟩

/-- If there is an operator that is refused, then the complaint is about the first of them. -/
theorem exists_allow_eq_error
    {operators : List Operator}
    (present : ∃ operator ∈ operators, operator.name ∈ refused)
    (value : α) :
    ∃ operator,
      operators.find? (fun operator => operator.name ∈ refused) = some operator ∧
        allow refused operators value =
          .error (.invalidOperation (.unknownOperator operator.name)) := by
  obtain ⟨other, member, isRefused⟩ := present
  have found : (operators.find? fun operator => operator.name ∈ refused).isSome :=
    List.find?_isSome.mpr ⟨other, member, decide_eq_true isRefused⟩
  obtain ⟨operator, refusal⟩ := Option.isSome_iff_exists.mp found
  refine ⟨operator, refusal, ?_⟩
  rw [allow, refusal]

/--
A restricted parser reads the same expressions as the usual one, except those with an operation that
is refused. For these it complains about the first operation in post-order whose operator is refused.
-/
theorem restricted_parse_is_exact
    {build : OperationBuilder}
    (refuses : RefusesOnly refused build) :
    (∀ text expression,
      parseWith build text = .ok expression ↔
        parse text = .ok expression ∧
          ∀ operator ∈ expression.postorder, operator.name ∉ refused) ∧
    (∀ text expression,
      parse text = .ok expression →
      (∃ operator ∈ expression.postorder, operator.name ∈ refused) →
        ∃ operator,
          expression.postorder.find? (fun operator => operator.name ∈ refused) = some operator ∧
            parseWith build text =
              .error (.invalidOperation (.unknownOperator operator.name))) := by
  have restricts : ∀ text, Restricts refused postorder (parse text) (parseWith build text) :=
    fun text => restricts_parseCharacters refuses text.toList
  refine ⟨?_, ?_⟩
  · intro text expression
    have restrictsText := restricts text
    generalize parse text = outcome, parseWith build text = restricted at restrictsText
    cases restrictsText with
    | failed =>
        simp
    | read value isAllowed =>
        rw [isAllowed, allow_eq_ok_iff, Except.ok.injEq]
        exact and_congr_right fun same => by rw [same]
  · intro text expression parsed present
    have restrictsText := restricts text
    rw [parsed] at restrictsText
    cases restrictsText with
    | read _ isAllowed =>
        rw [isAllowed]
        exact exists_allow_eq_error present expression

end Restriction

/-- A difference with a product, and in it a quotient. -/
def differenceWithProduct : Expression :=
  .operation .minus (.constant 1)
    [.operation .times
      (.operation .divide (.constant 6) [.reference "A0"]) [.constant 2]]

/-- With differences and products refused, the product is complained about, since it is read first. -/
theorem differenceWithProduct_is_refused :
    parse "1 - 6 / A0 * 2" = .ok differenceWithProduct ∧
      parseWith (Expression.buildWithout ["-", "*"]) "1 - 6 / A0 * 2" =
        .error (.invalidOperation (.unknownOperator "*")) := by
  have isName : IsName "A0".toList :=
    isName_of_isAlphanum (by decide) (by decide) (by decide)
  have quotient :
      Expression.IsSpellable (.operation .divide (.constant 6) [.reference "A0"]) := by
    apply Expression.IsSpellable.operation
    simp [Expression.IsSpellable.constant, Expression.IsSpellable.reference isName]
  have product :
      Expression.IsSpellable
        (.operation .times
          (.operation .divide (.constant 6) [.reference "A0"]) [.constant 2]) := by
    apply Expression.IsSpellable.operation
    simp [Expression.IsSpellable.constant, quotient]
  have difference : differenceWithProduct.IsSpellable := by
    apply Expression.IsSpellable.operation
    simp [Expression.IsSpellable.constant, product]
  have text : differenceWithProduct.render = "1 - 6 / A0 * 2" := by
    decide
  have regrouped : differenceWithProduct.flatten.group Operator.scanOrder = differenceWithProduct := by
    decide
  have parsed := parse_render difference
  rw [text, regrouped] at parsed
  obtain ⟨operator, isFirst, refused⟩ :=
    (restricted_parse_is_exact (buildWithout_refusesOnly ["-", "*"])).right _ _ parsed
      ⟨.minus, by decide, by decide⟩
  have isTimes : some Operator.times = some operator := isFirst
  obtain rfl := Option.some.inj isTimes
  exact ⟨parsed, refused⟩

end Formula

end Spreadsheet
