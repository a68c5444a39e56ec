import Mathlib.Data.Finset.Card
import Spreadsheet.Proofs.Evaluation.Outcome

namespace Spreadsheet.Expression

/-!
# The limit on followed bindings

Evaluation may follow as many bindings as its context has. This limit never cuts an evaluation
short that would end: a larger limit can only turn circular names into others, a limit that turns
none of them is as good as all larger ones, and until then every step turns one name more.
-/

section Limits

variable (context : Context)

theorem resolve_of_unbound
    {name : String}
    (absent : context[name]? = none)
    (limit : Nat) :
    resolve context limit name = .ok (.reference name) := by
  unfold resolve
  simp [absent]

theorem resolve_zero_of_bound
    {name : String}
    {bound : Expression}
    (binds : context[name]? = some bound) :
    resolve context 0 name = .error (.circularReference name) := by
  simp [resolve, binds]

theorem resolve_succ_of_bound
    {name : String}
    {bound : Expression}
    (binds : context[name]? = some bound)
    (limit : Nat) :
    resolve context (limit + 1) name = reduce (resolve context limit) bound := by
  simp [resolve, binds]

/--
To prove a property of all names under all limits, prove it of names without a binding, of bound
names under the limit zero, and of bound names from all names under the limit before.
-/
@[elab_as_elim]
theorem inductionOnLimit
    {motive : Nat → String → Prop}
    (limit : Nat)
    (name : String)
    (unbound : ∀ limit name, context[name]? = none → motive limit name)
    (exhausted : ∀ name bound, context[name]? = some bound → motive 0 name)
    (follow :
      ∀ limit name bound,
        context[name]? = some bound → (∀ next, motive limit next) → motive (limit + 1) name) :
    motive limit name := by
  induction limit generalizing name with
  | zero =>
      cases binds : context[name]? with
      | none =>
          exact unbound 0 name binds
      | some bound =>
          exact exhausted name bound binds
  | succ limit inductionHypothesis =>
      cases binds : context[name]? with
      | none =>
          exact unbound (limit + 1) name binds
      | some bound =>
          exact follow limit name bound binds inductionHypothesis

/-- A larger limit changes only outcomes that are circular under the smaller one. -/
theorem resolve_approximates
    (limit : Nat)
    (name : String) :
    Outcome.Approximates (resolve context limit name) (resolve context (limit + 1) name) := by
  induction limit, name using inductionOnLimit context with
  | unbound limit name absent =>
      exact Or.inl (by simp only [resolve_of_unbound context absent])
  | exhausted name bound binds =>
      exact Or.inr ⟨name, resolve_zero_of_bound context binds⟩
  | follow limit name bound binds inductionHypothesis =>
      simp only [resolve_succ_of_bound context binds]
      exact reduce_congr Outcome.approximates_respectsSteps fun other _ =>
        inductionHypothesis other

/-- Following one binding more makes no difference. -/
def IsSettled (limit : Nat) : Prop :=
  ∀ name, Outcome.Same (resolve context (limit + 1) name) (resolve context limit name)

/-- A limit that settles all names is followed by another one that does. -/
theorem IsSettled.succ
    {limit : Nat}
    (settled : IsSettled context limit) :
    IsSettled context (limit + 1) := by
  intro name
  cases binds : context[name]? with
  | none =>
      exact Or.inl (by simp only [resolve_of_unbound context binds])
  | some bound =>
      simp only [resolve_succ_of_bound context binds]
      exact reduce_congr Outcome.same_respectsSteps fun other _ => settled other

theorem IsSettled.mono
    {limit larger : Nat}
    (settled : IsSettled context limit)
    (atMost : limit ≤ larger) :
    IsSettled context larger := by
  induction larger, atMost using Nat.le_induction with
  | base =>
      exact settled
  | succ larger _ inductionHypothesis =>
      exact inductionHypothesis.succ

/-- The bound names that the limit leaves circular. -/
def circularNames (limit : Nat) : Finset String :=
  context.keys.toFinset.filter fun name => Outcome.IsCircular (resolve context limit name)

theorem mem_circularNames
    {limit : Nat}
    {name : String} :
    name ∈ circularNames context limit ↔ Outcome.IsCircular (resolve context limit name) := by
  simp only [circularNames, Finset.mem_filter, List.mem_toFinset, Std.ExtTreeMap.mem_keys]
  constructor
  · exact And.right
  · intro circular
    by_cases isBound : name ∈ context
    · exact ⟨isBound, circular⟩
    · have absent := Std.ExtTreeMap.getElem?_eq_none isBound
      rw [resolve_of_unbound context absent] at circular
      exact absurd circular (Outcome.not_isCircular_ok _)

/-- Only bound names can be circular. -/
theorem card_circularNames_le
    (limit : Nat) :
    (circularNames context limit).card ≤ context.size := by
  calc (circularNames context limit).card
      ≤ context.keys.toFinset.card := Finset.card_filter_le _ _
    _ ≤ context.keys.length := List.toFinset_card_le _
    _ = context.size := Std.ExtTreeMap.length_keys

/-- As long as names are not settled, each step of the limit frees one of them. -/
theorem card_circularNames_succ_lt
    {limit : Nat}
    (unsettled : ¬ IsSettled context limit) :
    (circularNames context (limit + 1)).card < (circularNames context limit).card := by
  apply Finset.card_lt_card
  apply Finset.ssubset_iff_subset_ne.mpr
  constructor
  · intro name circular
    rw [mem_circularNames] at circular ⊢
    rcases resolve_approximates context limit name with equal | isCircular
    · rw [equal]
      exact circular
    · exact isCircular
  · intro unchanged
    apply unsettled
    intro name
    rcases resolve_approximates context limit name with equal | isCircular
    · exact Or.inl equal.symm
    · refine Or.inr ⟨?_, isCircular⟩
      rw [← mem_circularNames, unchanged, mem_circularNames]
      exact isCircular

/-- As long as limits are not settled, each of them leaves fewer names circular. -/
theorem card_circularNames_add_le
    (limit : Nat)
    (unsettled : ∀ smaller < limit, ¬ IsSettled context smaller) :
    (circularNames context limit).card + limit ≤ context.size := by
  induction limit with
  | zero =>
      exact card_circularNames_le context 0
  | succ limit inductionHypothesis =>
      have fewer := card_circularNames_succ_lt context (unsettled limit (Nat.lt_succ_self limit))
      have before := inductionHypothesis fun smaller isSmaller =>
        unsettled smaller (Nat.lt_succ_of_lt isSmaller)
      omega

/-- As many steps as there are bindings settle all names. -/
theorem isSettled_size : IsSettled context context.size := by
  by_contra unsettled
  have unsettledBefore : ∀ smaller < context.size + 1, ¬ IsSettled context smaller := by
    intro smaller isSmaller settled
    exact unsettled (settled.mono context (Nat.le_of_lt_succ isSmaller))
  have tooMany := card_circularNames_add_le context (context.size + 1) unsettledBefore
  omega

end Limits

/-- A bound name evaluates to what its binding evaluates to, up to the name of a circle. -/
theorem evaluate_bound_same
    {context : Context}
    {name : String}
    {bound : Expression}
    (binds : context[name]? = some bound) :
    Outcome.Same (evaluate context bound) (evaluate context (.reference name)) := by
  have settled := isSettled_size context name
  rw [resolve_succ_of_bound context binds] at settled
  exact settled

/-- A bound name counts in every expression as what its binding evaluates to. -/
theorem evaluate_same_reduce_update
    {context : Context}
    {name : String}
    {bound : Expression}
    (binds : context[name]? = some bound)
    (expression : Expression) :
    Outcome.Same (evaluate context expression)
      (reduce
        (Function.update (resolve context context.size) name (evaluate context bound))
        expression) := by
  apply reduce_congr Outcome.same_respectsSteps
  intro other _
  by_cases isName : other = name
  · subst isName
    rw [Function.update_self]
    exact (evaluate_bound_same binds).symm
  · rw [Function.update_of_ne isName]
    exact Outcome.Same.refl _

end Spreadsheet.Expression
