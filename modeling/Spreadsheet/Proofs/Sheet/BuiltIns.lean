import Spreadsheet.Config
import Spreadsheet.Proofs.Sheet.Writes

namespace Spreadsheet.Sheet

/-!
# Built-ins of a sheet

The built-ins of a sheet are those that it was built with, whatever is written to it. Their names
consist of letters and numbers and are not addresses, and a property of all expressions that are
given as built-ins holds of those of the sheet. The built-ins of a configuration are numbers, so
that none of them reads a name.
-/

/-- All expressions that names are bound to have the property. -/
def BindsOnly
    (property : Expression → Prop)
    (context : Context) : Prop :=
  ∀ (name : String) (expression : Expression),
    context[name]? = some expression → property expression

/-- The name consists of letters and numbers and does not write an address. -/
def CanBeBuiltIn (name : String) : Prop :=
  Formula.isName name.toList = true ∧ Address.ofText? name = none

/-- All names that are bound can be those of built-ins. -/
def BindsBuiltInNames (context : Context) : Prop :=
  ∀ name ∈ context, CanBeBuiltIn name

/-- A built-in is accepted if and only if its name can be that of one. -/
theorem addBuiltIn_eq_ok_iff
    {before after : Context}
    {name : String}
    {expression : Expression} :
    addBuiltIn before (name, expression) = .ok after ↔
      CanBeBuiltIn name ∧ before.insert name expression = after := by
  simp only [addBuiltIn, CanBeBuiltIn]
  cases isName : Formula.isName name.toList with
  | false =>
      simp
  | true =>
      cases isAddress : Address.ofText? name with
      | none =>
          simp
      | some address =>
          simp

/-- Built-ins are accepted one after the other. -/
theorem foldlM_addBuiltIn_cons_eq_ok_iff
    {before after : Context}
    {name : String}
    {expression : Expression}
    {later : List (String × Expression)} :
    ((name, expression) :: later).foldlM addBuiltIn before = .ok after ↔
      CanBeBuiltIn name ∧
        later.foldlM addBuiltIn (before.insert name expression) = .ok after := by
  rw [List.foldlM_cons]
  cases addedFirst : addBuiltIn before (name, expression) with
  | error cause =>
      have refused : ¬ CanBeBuiltIn name := by
        intro canBeBuiltIn
        rw [addBuiltIn_eq_ok_iff.mpr ⟨canBeBuiltIn, rfl⟩] at addedFirst
        contradiction
      exact iff_of_false (by simp [bind, Except.bind]) fun accepted => refused accepted.1
  | ok middle =>
      obtain ⟨canBeBuiltIn, rfl⟩ := addBuiltIn_eq_ok_iff.mp addedFirst
      exact (and_iff_right canBeBuiltIn).symm

/-- What every accepted built-in keeps holds at the end if it holds at the beginning. -/
theorem foldlM_addBuiltIn_keeps
    {Kept : Context → Prop}
    {builtIns : List (String × Expression)}
    (keeps :
      ∀ name expression, (name, expression) ∈ builtIns → CanBeBuiltIn name →
        ∀ context, Kept context → Kept (context.insert name expression))
    {before after : Context}
    (held : Kept before)
    (added : builtIns.foldlM addBuiltIn before = .ok after) :
    Kept after := by
  induction builtIns generalizing before with
  | nil =>
      obtain rfl := Except.ok.inj added
      exact held
  | cons binding later inductionHypothesis =>
      obtain ⟨name, expression⟩ := binding
      obtain ⟨canBeBuiltIn, addedLater⟩ := foldlM_addBuiltIn_cons_eq_ok_iff.mp added
      refine inductionHypothesis
        (fun other bound inLater => keeps other bound (List.mem_cons_of_mem _ inLater)) ?_ addedLater
      exact keeps name expression (List.mem_cons_self ..) canBeBuiltIn before held

/-- Of the built-ins of one name the last one counts. -/
theorem getElem?_of_foldlM_addBuiltIn
    {builtIns : List (String × Expression)}
    {before after : Context}
    (added : builtIns.foldlM addBuiltIn before = .ok after)
    (name : String) :
    after[name]? = (builtIns.reverse.lookup name).or before[name]? := by
  induction builtIns generalizing before with
  | nil =>
      obtain rfl := Except.ok.inj added
      rfl
  | cons binding later inductionHypothesis =>
      obtain ⟨boundName, expression⟩ := binding
      obtain ⟨_, addedLater⟩ := foldlM_addBuiltIn_cons_eq_ok_iff.mp added
      rw [inductionHypothesis addedLater, List.reverse_cons, List.lookup_append, Option.or_assoc]
      congr 1
      by_cases isName : boundName = name
      · subst isName
        simp
      · have different : (name == boundName) = false := by
          simpa using Ne.symm isName
        simp [Std.ExtTreeMap.getElem?_insert, isName, List.lookup_cons, different]

section Built

variable
  {parse : String → Except FormulaError Expression}
  {rows columns : UInt64}
  {filler : Expression}
  {builtIns : List (String × Expression)}
  {initial sheet : Sheet}

theorem foldlM_addBuiltIn_of_buildWith
    (built : buildWith parse rows columns filler builtIns = .ok initial) :
    builtIns.foldlM addBuiltIn ∅ = .ok initial.builtIns := by
  unfold buildWith at built
  split at built
  · contradiction
  · simp only [bind, Except.bind] at built
    split at built
    · contradiction
    · rename_i context added
      obtain rfl := Except.ok.inj built
      exact added

/-- A new sheet has the last built-in of each name. -/
theorem getElem?_builtIns_of_buildWith
    (built : buildWith parse rows columns filler builtIns = .ok initial)
    (name : String) :
    initial.builtIns[name]? = builtIns.reverse.lookup name := by
  rw [getElem?_of_foldlM_addBuiltIn (foldlM_addBuiltIn_of_buildWith built)]
  simp

/-- What holds of all built-ins that are given holds of those of the sheet. -/
theorem bindsOnly_of_buildWith
    {property : Expression → Prop}
    (given : ∀ binding ∈ builtIns, property binding.2)
    (built : buildWith parse rows columns filler builtIns = .ok initial) :
    BindsOnly property initial.builtIns := by
  refine foldlM_addBuiltIn_keeps ?_ ?_ (foldlM_addBuiltIn_of_buildWith built)
  · intro added bound isGiven _ context held name expression binds
    rw [Std.ExtTreeMap.getElem?_insert] at binds
    split at binds
    · obtain rfl := Option.some.inj binds
      exact given (added, bound) isGiven
    · exact held name expression binds
  · intro name expression binds
    simp at binds

/-- A new sheet has only names of built-ins. -/
theorem bindsBuiltInNames_of_buildWith
    (built : buildWith parse rows columns filler builtIns = .ok initial) :
    BindsBuiltInNames initial.builtIns := by
  refine foldlM_addBuiltIn_keeps ?_ ?_ (foldlM_addBuiltIn_of_buildWith built)
  · intro added bound _ canBeBuiltIn context held name isBound
    rcases Std.ExtTreeMap.mem_insert.mp isBound with same | before
    · rw [← Std.LawfulEqOrd.eq_of_compare same]
      exact canBeBuiltIn
    · exact held name before
  · intro name isBound
    simp at isBound

/-- Whatever is written to a sheet, its built-ins have the names of built-ins. -/
theorem canBeBuiltIn_of_mem_builtIns
    (built : buildWith parse rows columns filler builtIns = .ok initial)
    (reached : ReachedFrom initial sheet)
    {name : String}
    (isBuiltIn : name ∈ sheet.builtIns) :
    CanBeBuiltIn name := by
  rw [((isAsBuilt_of_build_eq_ok built).of_reachedFrom reached).builtIns_eq] at isBuiltIn
  exact bindsBuiltInNames_of_buildWith built name isBuiltIn

end Built

/-- No built-in reads a name. -/
def HasClosedBuiltIns (sheet : Sheet) : Prop :=
  BindsOnly (fun expression => ∀ name, name ∉ expression.dependencies) sheet.builtIns

/-- The built-ins of a configuration are numbers. -/
theorem bindsOnly_of_buildSheet
    {property : Expression → Prop}
    (ofNumbers : ∀ value, property (.constant value))
    {config : Config}
    {initial : Sheet}
    (built : config.buildSheet = .ok initial) :
    BindsOnly property initial.builtIns := by
  refine bindsOnly_of_buildWith ?_ built
  intro binding given
  obtain ⟨⟨name, value⟩, _, isBinding⟩ := List.mem_map.mp given
  rw [← isBinding]
  exact ofNumbers value

theorem buildSheet_eq_ok_lifeSheet :
    (⟨3, 3, (∅ : Std.ExtTreeMap String Int64).insert "life" 42⟩ : Config).buildSheet =
      .ok lifeSheet :=
  rfl

/-- The built-ins of a configuration read no names, whatever is written to the sheet. -/
theorem hasClosedBuiltIns_of_buildSheet
    {config : Config}
    {initial sheet : Sheet}
    (built : config.buildSheet = .ok initial)
    (reached : ReachedFrom initial sheet) :
    sheet.HasClosedBuiltIns := by
  rw [HasClosedBuiltIns, ((isAsBuilt_of_build_eq_ok built).of_reachedFrom reached).builtIns_eq]
  refine bindsOnly_of_buildSheet ?_ built
  intro value name
  simp [Expression.dependencies, Expression.references]

end Spreadsheet.Sheet
