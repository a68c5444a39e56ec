import Mathlib.Logic.Function.Iterate
import Mathlib.Logic.Relation
import Spreadsheet.Proofs.Expression
import Spreadsheet.Sheet.Dependents

namespace Spreadsheet.Sheet

/-!
# What the search for dependents finds

A cell depends on an address if there is a chain of written cells from the one to the other in which
every cell reads the next. The search ends with exactly these cells, whatever the order in which it
goes through the cells of the sheet. Sorted by column and row, each of them is there once.
-/

/-- The expression of the written cell depends on the name. -/
def ReadsName
    (sheet : Sheet)
    (reader : Address)
    (name : String) : Prop :=
  ∃ expression, sheet.expressionAt? reader = some expression ∧ name ∈ expression.dependencies

/-- The expression of the written cell depends on the address of the other cell. -/
def ReadsCell
    (sheet : Sheet)
    (reader cell : Address) : Prop :=
  sheet.ReadsName reader cell.text

/-- A chain of written cells, each of which reads the next, leads from the cell to the address. -/
def DependsOn
    (sheet : Sheet)
    (cell address : Address) : Prop :=
  Relation.TransGen sheet.ReadsCell cell address

/-- The list holds the written cells of the sheet with their expressions. -/
def IsListedBy
    (sheet : Sheet)
    (cells : List (Address × Expression)) : Prop :=
  cells.Perm sheet.cells.toList

namespace Search

/-! ## What a step does -/

/-- The cells that are looked up for a name are those that read it. -/
theorem mem_readers_iff
    {sheet : Sheet}
    {cells : List (Address × Expression)}
    (listed : sheet.IsListedBy cells)
    {name : String}
    {cell : Address} :
    cell ∈ (cells.filter (reads name)).map Prod.fst ↔ sheet.ReadsName cell name := by
  simp only [List.mem_map, List.mem_filter, listed.mem_iff, Prod.exists, exists_and_right,
    exists_eq_right, Std.ExtTreeMap.mem_toList_iff_getElem?_eq_some, reads]
  exact Iff.rfl

section Step

variable
  {sheet : Sheet}
  {cells : List (Address × Expression)}
  {search : Search}
  {name : String}
  {others : List String}

theorem step_of_atEnd
    (isAtEnd : search.pending = []) :
    search.step cells = search := by
  simp only [step, isAtEnd]

theorem step_of_visited
    (isPending : search.pending = name :: others)
    (isVisited : name ∈ search.visited) :
    search.step cells = { search with pending := others } := by
  simp only [step, isPending, if_pos isVisited]

/-- A step puts the readers of the name in its place. -/
theorem mem_pending_step
    (listed : sheet.IsListedBy cells)
    (isPending : search.pending = name :: others)
    (isNew : name ∉ search.visited)
    {other : String} :
    other ∈ (search.step cells).pending ↔
      (∃ cell, sheet.ReadsName cell name ∧ cell.text = other) ∨ other ∈ others := by
  simp only [step, isPending, if_neg isNew, List.mem_append, List.mem_reverse]
  rw [List.mem_map]
  simp only [mem_readers_iff listed]

/-- After a step the name has had its turn. -/
theorem mem_visited_step
    (isPending : search.pending = name :: others)
    (isNew : name ∉ search.visited)
    {other : String} :
    other ∈ (search.step cells).visited ↔ other = name ∨ other ∈ search.visited := by
  simp only [step, isPending, if_neg isNew]
  rw [Std.ExtTreeSet.mem_insert, Std.LawfulEqCmp.compare_eq_iff_eq, eq_comm]

/-- A step finds the readers of the name. -/
theorem mem_found_step
    (listed : sheet.IsListedBy cells)
    (isPending : search.pending = name :: others)
    (isNew : name ∉ search.visited)
    {cell : Address} :
    cell ∈ (search.step cells).found ↔ cell ∈ search.found ∨ sheet.ReadsName cell name := by
  simp only [step, isPending, if_neg isNew]
  rw [Std.ExtTreeSet.mem_insertMany_list, List.contains_iff_mem, mem_readers_iff listed]

end Step

/-! ## What a search keeps -/

/--
What holds at every point of the search for the dependents of an address. The names that have come
up so far are the address and the cells found; the readers of those that had their turn are found.
-/
structure IsSearchFor
    (sheet : Sheet)
    (address : Address)
    (search : Search) : Prop where
  found_dependsOn :
    ∀ cell ∈ search.found, sheet.DependsOn cell address
  name_iff :
    ∀ name, name ∈ search.pending ∨ name ∈ search.visited ↔
      name = address.text ∨ ∃ cell ∈ search.found, cell.text = name
  visited_found :
    ∀ name ∈ search.visited, ∀ cell, sheet.ReadsName cell name → cell ∈ search.found

/-- At the beginning the address is all that has come up. -/
theorem isSearchFor_start
    (sheet : Sheet)
    (address : Address) :
    (start address.text).IsSearchFor sheet address where
  found_dependsOn := by
    simp [start]
  name_iff := by
    simp [start]
  visited_found := by
    simp [start]

/-- A step keeps what holds of the search. -/
theorem IsSearchFor.step
    {sheet : Sheet}
    {address : Address}
    {cells : List (Address × Expression)}
    {search : Search}
    (listed : sheet.IsListedBy cells)
    (invariant : search.IsSearchFor sheet address) :
    (search.step cells).IsSearchFor sheet address := by
  cases isPending : search.pending with
  | nil =>
      rw [step_of_atEnd isPending]
      exact invariant
  | cons name others =>
      have names := invariant.name_iff
      rw [isPending] at names
      by_cases isVisited : name ∈ search.visited
      · rw [step_of_visited isPending isVisited]
        refine ⟨invariant.found_dependsOn, ?_, invariant.visited_found⟩
        intro other
        rw [← names other, List.mem_cons]
        constructor
        · exact Or.imp_left Or.inr
        · rintro ((isName | later) | visited)
          · subst isName
            exact Or.inr isVisited
          · exact Or.inl later
          · exact Or.inr visited
      · refine ⟨?_, ?_, ?_⟩
        · intro cell isFound
          rcases (mem_found_step listed isPending isVisited).mp isFound with before | readsName
          · exact invariant.found_dependsOn cell before
          · -- The name is the address itself or that of a cell that depends on it.
            rcases (names name).mp (Or.inl (List.mem_cons_self ..)) with isAddress | isCell
            · subst isAddress
              exact .single readsName
            · obtain ⟨next, nextFound, isText⟩ := isCell
              subst isText
              exact .head readsName (invariant.found_dependsOn next nextFound)
        · intro other
          simp only [mem_pending_step listed isPending isVisited,
            mem_visited_step isPending isVisited, mem_found_step listed isPending isVisited]
          have before := names other
          rw [List.mem_cons] at before
          grind
        · intro other hasTurn cell readsName
          rw [mem_found_step listed isPending isVisited]
          rcases (mem_visited_step isPending isVisited).mp hasTurn with isName | before
          · subst isName
            exact Or.inr readsName
          · exact Or.inl (invariant.visited_found other before cell readsName)

/-- What holds of a search holds of it at its end. -/
theorem IsSearchFor.run
    {sheet : Sheet}
    {address : Address}
    {cells : List (Address × Expression)}
    {search : Search}
    (listed : sheet.IsListedBy cells)
    (invariant : search.IsSearchFor sheet address) :
    (search.run cells).IsSearchFor sheet address := by
  induction search using Search.run.induct cells with
  | case1 search isAtEnd =>
      rw [Search.run, if_pos isAtEnd]
      exact invariant
  | case2 search underWay inductionHypothesis =>
      rw [Search.run, if_neg underWay]
      exact inductionHypothesis (invariant.step listed)

/-- A search comes to its end. -/
theorem pending_run
    (cells : List (Address × Expression))
    (search : Search) :
    (search.run cells).pending = [] := by
  induction search using Search.run.induct cells with
  | case1 search isAtEnd =>
      rw [run, if_pos isAtEnd]
      exact isAtEnd
  | case2 search underWay inductionHypothesis =>
      rw [run, if_neg underWay]
      exact inductionHypothesis

/-- A search that has come to its end has found the cells that depend on the address. -/
theorem IsSearchFor.mem_found_iff
    {sheet : Sheet}
    {address : Address}
    {search : Search}
    (invariant : search.IsSearchFor sheet address)
    (isAtEnd : search.pending = [])
    {cell : Address} :
    cell ∈ search.found ↔ sheet.DependsOn cell address := by
  constructor
  · exact invariant.found_dependsOn cell
  · intro chain
    have hasTurn :
        ∀ name, (name = address.text ∨ ∃ cell ∈ search.found, cell.text = name) →
          name ∈ search.visited := by
      intro name known
      simpa [isAtEnd] using (invariant.name_iff name).mpr known
    induction chain using Relation.TransGen.head_induction_on with
    | single readsCell =>
        exact invariant.visited_found _ (hasTurn _ (Or.inl rfl)) _ readsCell
    | head readsCell _ nextFound =>
        exact invariant.visited_found _ (hasTurn _ (Or.inr ⟨_, nextFound, rfl⟩)) _ readsCell

/-- In whatever order it goes through the cells, a search finds those that depend on the address. -/
theorem mem_found_run_iff
    {sheet : Sheet}
    {cells : List (Address × Expression)}
    (listed : sheet.IsListedBy cells)
    {address cell : Address} :
    cell ∈ ((start address.text).run cells).found ↔ sheet.DependsOn cell address :=
  ((isSearchFor_start sheet address).run listed).mem_found_iff (pending_run ..)

/-! ## How long a search takes -/

/-- Steps as many as the bound, or more, bring the search to its end. -/
theorem iterate_step_eq_run
    (cells : List (Address × Expression))
    {search : Search}
    {steps : Nat}
    (enough : search.bound cells ≤ steps) :
    (step cells)^[steps] search = search.run cells := by
  induction steps generalizing search with
  | zero =>
      have isAtEnd : search.pending = [] := by
        by_contra underWay
        have positive := bound_step_lt cells underWay
        omega
      rw [run, if_pos isAtEnd, Function.iterate_zero_apply]
  | succ steps inductionHypothesis =>
      rw [Function.iterate_succ_apply]
      by_cases isAtEnd : search.pending = []
      · have stays : step cells search = search := step_of_atEnd isAtEnd
        rw [stays, Function.iterate_fixed stays, run, if_pos isAtEnd]
      · rw [run, if_neg isAtEnd]
        apply inductionHypothesis
        have fewer := bound_step_lt cells isAtEnd
        omega

/-- The steps of a search are bounded by the number of cells alone. -/
theorem bound_start_le
    (cells : List (Address × Expression))
    (name : String) :
    (start name).bound cells ≤ 1 + cells.length * (cells.length + 1) := by
  have names : ((start name).unvisited cells).length ≤ cells.length + 1 := by
    calc ((start name).unvisited cells).length
        ≤ (cells.map (·.1.text) ++ [name].filter (· ∉ cells.map (·.1.text))).length :=
          List.length_filter_le ..
      _ ≤ (cells.map (·.1.text)).length + [name].length := by
          rw [List.length_append]
          exact Nat.add_le_add_left (List.length_filter_le ..) _
      _ = cells.length + 1 := by
          rw [List.length_map, List.length_singleton]
  have total := Nat.mul_le_mul_left cells.length names
  simp only [bound, start, List.length_singleton] at total ⊢
  omega

end Search

/-! ## Dependents -/

/-- The dependents of an address are the cells that depend on it. -/
theorem mem_dependents_iff
    {sheet : Sheet}
    {address cell : Address} :
    cell ∈ sheet.dependents address ↔ sheet.DependsOn cell address :=
  Search.mem_found_run_iff (List.Perm.refl _)

/-- A written cell depends on an address through one of the names that its expression reads. -/
theorem dependsOn_iff_of_written
    {sheet : Sheet}
    {cell address : Address}
    {expression : Expression}
    (written : sheet.expressionAt? cell = some expression) :
    sheet.DependsOn cell address ↔
      ∃ name ∈ expression.dependencies,
        name = address.text ∨ ∃ next, next.text = name ∧ sheet.DependsOn next address := by
  constructor
  · intro chain
    obtain ⟨next, ⟨stored, isStored, inStored⟩, later⟩ := Relation.TransGen.head'_iff.mp chain
    obtain rfl := Option.some.inj (written.symm.trans isStored)
    refine ⟨next.text, inStored, ?_⟩
    rcases Relation.reflTransGen_iff_eq_or_transGen.mp later with isNext | laterChain
    · exact Or.inl (congrArg Address.text isNext.symm)
    · exact Or.inr ⟨next, rfl, laterChain⟩
  · rintro ⟨name, inExpression, rfl | ⟨next, rfl, chain⟩⟩
    · exact .single ⟨expression, written, inExpression⟩
    · exact .head ⟨expression, written, inExpression⟩ chain

/-- A search finds the dependents in finitely many steps, in whatever order it looks at cells. -/
theorem iterate_step_finds_dependents
    {sheet : Sheet}
    {cells : List (Address × Expression)}
    (listed : sheet.IsListedBy cells)
    (address : Address)
    {steps : Nat}
    (enough : 1 + cells.length * (cells.length + 1) ≤ steps) :
    ((Search.step cells)^[steps] (.start address.text)).pending = [] ∧
      ((Search.step cells)^[steps] (.start address.text)).found = sheet.dependents address := by
  rw [Search.iterate_step_eq_run cells (Nat.le_trans (Search.bound_start_le cells _) enough)]
  refine ⟨Search.pending_run .., ?_⟩
  apply Std.ExtTreeSet.ext_mem
  intro cell
  rw [Search.mem_found_run_iff listed, mem_dependents_iff]

end Spreadsheet.Sheet
