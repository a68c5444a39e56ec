import Spreadsheet.Proofs.Evaluation.Values
import Spreadsheet.Proofs.Formula.NormalForm

namespace Spreadsheet.Expression

/-!
# Values of normal forms

If an expression and all bindings of a context are in normal form, then so is the value of the
expression: whatever chain of names is followed, it ends with a number, with nothing, or with a name
that formulas can contain.
-/

theorem isNormal_constant
    (number : Int64) :
    (constant number).IsNormal :=
  Or.inr (.constant number)

theorem isNormal_reference_iff
    {name : String} :
    (reference name).IsNormal ↔ Formula.IsName name.toList := by
  constructor
  · rintro (isEmpty | grouped)
    · contradiction
    · cases grouped with
      | reference isName =>
          exact isName
  · intro isName
    exact Or.inr (.reference isName)

/-- An expression in normal form reduces to one, if its names resolve to such. -/
theorem isNormal_of_reduce
    {resolve : String → Outcome Expression}
    (resolvesNormal :
      ∀ name value, Formula.IsName name.toList → resolve name = .ok value → IsNormal value)
    {expression value : Expression}
    (normal : expression.IsNormal)
    (reduces : reduce resolve expression = .ok value) :
    value.IsNormal := by
  rcases reduce_eq_ok_cases reduces with ⟨number, rfl⟩ | ⟨_, rfl⟩ | ⟨name, rfl, resolves⟩
  · exact isNormal_constant number
  · exact Or.inl rfl
  · exact resolvesNormal name value (isNormal_reference_iff.mp normal) resolves

section NormalContext

variable
  {context : Context}
  (normalContext :
    ∀ (name : String) (bound : Expression), context[name]? = some bound → bound.IsNormal)

include normalContext

/-- A name resolves to an expression in normal form under every limit. -/
theorem isNormal_of_resolve
    (limit : Nat)
    (name : String)
    (value : Expression)
    (isName : Formula.IsName name.toList)
    (resolves : resolve context limit name = .ok value) :
    value.IsNormal := by
  induction limit, name using inductionOnLimit context generalizing value with
  | unbound limit name absent =>
      rw [resolve_of_unbound context absent] at resolves
      obtain rfl := Except.ok.inj resolves
      exact isNormal_reference_iff.mpr isName
  | exhausted name bound binds =>
      rw [resolve_zero_of_bound context binds] at resolves
      contradiction
  | follow limit name bound binds inductionHypothesis =>
      rw [resolve_succ_of_bound context binds] at resolves
      exact isNormal_of_reduce inductionHypothesis (normalContext name bound binds) resolves

/-- Evaluation leads from normal forms to normal forms. -/
theorem isNormal_of_evaluate
    {expression value : Expression}
    (normal : expression.IsNormal)
    (evaluates : evaluate context expression = .ok value) :
    value.IsNormal :=
  isNormal_of_reduce (isNormal_of_resolve normalContext context.size) normal evaluates

end NormalContext

end Spreadsheet.Expression
