import Mathlib.Data.List.Duplicate
import Spreadsheet.Proofs.Evaluation.ReferenceGraph

namespace Spreadsheet.Expression

/-!
# The name in a complaint about a circle

Evaluation complains about a circle at the name whose binding would be one too many. The names on the
way there are more than the context binds, so one of them comes twice: it is on a circle, and the name
in the complaint can be reached from it. But that name need not be on a circle itself. A circle may
have ways out, and then the limit can run out on one of them.
-/

theorem mem_of_reads
    {context : Context}
    {reader name : String}
    (reads : Reads context reader name) :
    reader ∈ context := by
  obtain ⟨binding, binds, _⟩ := reads
  obtain ⟨isBound, _⟩ := Std.ExtTreeMap.getElem?_eq_some_iff.mp binds
  exact isBound

/-- Bound names from the first to the last, each of which reads the next one. -/
inductive Trail (context : Context) : String → String → List String → Prop where
  | last {name : String} :
      name ∈ context →
      Trail context name name [name]
  | cons {reader next last : String} {names : List String} :
      Reads context reader next →
      Trail context next last names →
      Trail context reader last (reader :: names)

namespace Trail

variable
  {context : Context}
  {first last : String}
  {names : List String}

theorem last_mem_context
    (trail : Trail context first last names) :
    last ∈ context := by
  induction trail with
  | last isBound =>
      exact isBound
  | cons _ _ inductionHypothesis =>
      exact inductionHypothesis

theorem mem_context
    (trail : Trail context first last names) :
    ∀ name ∈ names, name ∈ context := by
  induction trail with
  | last isBound =>
      simpa using isBound
  | cons reads _ inductionHypothesis =>
      exact List.forall_mem_cons.mpr ⟨mem_of_reads reads, inductionHypothesis⟩

/-- All names of a trail can be reached from the first one. -/
theorem from_first
    (trail : Trail context first last names) :
    ∀ name ∈ names, Relation.ReflTransGen (Reads context) first name := by
  induction trail with
  | last _ =>
      simpa using Relation.ReflTransGen.refl
  | cons reads _ inductionHypothesis =>
      exact List.forall_mem_cons.mpr
        ⟨.refl, fun name member => (inductionHypothesis name member).head reads⟩

/-- The last name of a trail can be reached from all of them. -/
theorem to_last
    (trail : Trail context first last names) :
    Relation.ReflTransGen (Reads context) first last ∧
      ∀ name ∈ names, Relation.ReflTransGen (Reads context) name last := by
  induction trail with
  | last _ =>
      exact ⟨.refl, by simpa using Relation.ReflTransGen.refl⟩
  | cons reads _ inductionHypothesis =>
      obtain ⟨nextToLast, laterToLast⟩ := inductionHypothesis
      have readerToLast := nextToLast.head reads
      exact ⟨readerToLast, List.forall_mem_cons.mpr ⟨readerToLast, laterToLast⟩⟩

theorem pairwise_transGen
    (trail : Trail context first last names) :
    names.Pairwise (Relation.TransGen (Reads context)) := by
  induction trail with
  | last _ =>
      exact List.pairwise_singleton _ _
  | cons reads later inductionHypothesis =>
      apply List.pairwise_cons.mpr
      exact ⟨fun name member => .head' reads (later.from_first name member), inductionHypothesis⟩

/-- A trail with more names than there are bindings comes to one of them twice. -/
theorem exists_isOnCycle
    (trail : Trail context first last names)
    (long : context.size < names.length) :
    ∃ name ∈ names, IsOnCycle context name := by
  have repeats : ¬ names.Nodup := by
    intro distinct
    have atMost : names.length ≤ context.keys.length :=
      distinct.length_le_of_subset fun name member =>
        Std.ExtTreeMap.mem_keys.mpr (trail.mem_context name member)
    rw [Std.ExtTreeMap.length_keys] at atMost
    exact absurd long (Nat.not_lt.mpr atMost)
  obtain ⟨name, twice⟩ := List.exists_duplicate_iff_not_nodup.mpr repeats
  exact ⟨name, twice.mem,
    trail.pairwise_transGen.forall_sublist (List.duplicate_iff_sublist.mp twice)⟩

end Trail

section CircularName

variable
  {context : Context}
  {expression : Expression}
  {first last : String}

/-- A complaint ends a trail that has used up the limit. -/
theorem exists_trail_of_resolve
    {limit : Nat}
    (circular : resolve context limit first = .error (.circularReference last)) :
    ∃ names, Trail context first last names ∧ names.length = limit + 1 := by
  induction limit, first using inductionOnLimit context with
  | unbound limit first absent =>
      rw [resolve_of_unbound context absent] at circular
      contradiction
  | exhausted first bound binds =>
      rw [resolve_zero_of_bound context binds] at circular
      obtain rfl : first = last := by
        simpa using circular
      obtain ⟨isBound, _⟩ := Std.ExtTreeMap.getElem?_eq_some_iff.mp binds
      exact ⟨[first], .last isBound, rfl⟩
  | follow limit first bound binds inductionHypothesis =>
      rw [resolve_succ_of_bound context binds] at circular
      obtain ⟨next, inBinding, nextCircular⟩ := exists_reference_of_circular circular
      obtain ⟨names, trail, length⟩ := inductionHypothesis next nextCircular
      have reads : Reads context first next :=
        ⟨bound, binds, mem_dependencies.mpr inBinding⟩
      exact ⟨first :: names, .cons reads trail, by rw [List.length_cons, length]⟩

theorem exists_trail_of_evaluate
    (circular : evaluate context expression = .error (.circularReference last)) :
    ∃ first ∈ expression.dependencies,
      ∃ names, Trail context first last names ∧ context.size < names.length := by
  obtain ⟨first, inExpression, firstCircular⟩ := exists_reference_of_circular circular
  obtain ⟨names, trail, length⟩ := exists_trail_of_resolve firstCircular
  refine ⟨first, mem_dependencies.mpr inExpression, names, trail, ?_⟩
  rw [length]
  exact Nat.lt_succ_self context.size

/-- From a circle without a way out only names on circles are reached, as far as they are bound. -/
theorem isOnCycle_of_no_way_out
    (noWayOut :
      ∀ reader name,
        Reaches context expression reader → IsOnCycle context reader →
        Reads context reader name → name ∈ context → IsOnCycle context name)
    (isReached : Reaches context expression first)
    (onCycle : IsOnCycle context first)
    (path : Relation.ReflTransGen (Reads context) first last)
    (isBound : last ∈ context) :
    IsOnCycle context last := by
  induction path with
  | refl =>
      exact onCycle
  | @tail reader name earlier reads inductionHypothesis =>
      obtain ⟨start, inExpression, toFirst⟩ := isReached
      have readerReached : Reaches context expression reader :=
        ⟨start, inExpression, toFirst.trans earlier⟩
      exact noWayOut reader name readerReached (inductionHypothesis (mem_of_reads reads)) reads
        isBound

/--
The name in a complaint about a circle is bound, and the expression reaches it, by way of a name on a
circle. If no circle that the expression reaches has a way out to a bound name, then the name in the
complaint is on a circle itself.
-/
theorem circular_name_lies_behind_circle
    (circular : evaluate context expression = .error (.circularReference last)) :
    last ∈ context ∧
    Reaches context expression last ∧
    (∃ name,
      Reaches context expression name ∧ IsOnCycle context name ∧
        Relation.ReflTransGen (Reads context) name last) ∧
    ((∀ reader name,
        Reaches context expression reader → IsOnCycle context reader →
        Reads context reader name → name ∈ context → IsOnCycle context name) →
      IsOnCycle context last) := by
  obtain ⟨first, inExpression, names, trail, long⟩ := exists_trail_of_evaluate circular
  obtain ⟨name, member, onCycle⟩ := trail.exists_isOnCycle long
  obtain ⟨firstToLast, toLast⟩ := trail.to_last
  have nameReached : Reaches context expression name :=
    ⟨first, inExpression, trail.from_first name member⟩
  refine ⟨trail.last_mem_context, ⟨first, inExpression, firstToLast⟩, ?_, ?_⟩
  · exact ⟨name, nameReached, onCycle, toLast name member⟩
  · intro noWayOut
    exact isOnCycle_of_no_way_out noWayOut nameReached onCycle (toLast name member)
      trail.last_mem_context

end CircularName

/-- A name that reads itself after a name that is bound to a number. -/
def circleWithExit : Context :=
  Std.ExtTreeMap.ofList
    [("A0", operation .plus (reference "B0") [reference "A0"]), ("B0", constant 1)]

/-- The complaint is about the number, since the limit runs out when it is read again. -/
theorem circleWithExit_complains_of_number :
    evaluate circleWithExit (reference "A0") = .error (.circularReference "B0") ∧
      IsOnCycle circleWithExit "A0" ∧
      ¬ IsOnCycle circleWithExit "B0" := by
  have binds : circleWithExit["B0"]? = some (constant 1) := by
    rfl
  have readsItself : Reads circleWithExit "A0" "A0" :=
    ⟨_, rfl, by simp [mem_dependencies, references, referencesOfOperands]⟩
  refine ⟨by rfl, .single readsItself, ?_⟩
  intro circle
  exact not_reaches_constant (reaches_binding_of_transGen binds circle)

theorem circleWithExit_name_lies_behind_circle :
    evaluate circleWithExit (reference "A0") = .error (.circularReference "B0") ∧
      "B0" ∈ circleWithExit ∧
      Reaches circleWithExit (reference "A0") "B0" ∧
      ∃ name,
        Reaches circleWithExit (reference "A0") name ∧ IsOnCycle circleWithExit name ∧
          Relation.ReflTransGen (Reads circleWithExit) name "B0" := by
  have circular :
      evaluate circleWithExit (reference "A0") = .error (.circularReference "B0") := by
    rfl
  obtain ⟨isBound, isReached, behindCircle, _⟩ := circular_name_lies_behind_circle circular
  exact ⟨circular, isBound, isReached, behindCircle⟩

end Spreadsheet.Expression
