import Spreadsheet.Sheet
import Std.Data.ExtTreeSet

namespace Spreadsheet.Sheet

/-!
# Cells that read a cell

A written cell depends on an address when its stored expression refers to that address, or to the
address of another cell that depends on it. The search for these cells keeps a stack of names whose
readers are still to be looked for. A name that has had its turn is passed over when it comes up
again, so that the search ends even where cells read each other in a circle.
-/

/-- The expression of a cell reads the name. -/
def reads
    (name : String)
    (cell : Address × Expression) :
    Bool :=
  cell.2.dependencies.contains name

/-- A search for the cells that read a name, directly or through other cells. -/
structure Search where
  /-- Names whose readers are still to be looked for, the next one first. -/
  pending : List String
  /-- Names that have had their turn. -/
  visited : Std.ExtTreeSet String
  /-- The cells found so far. -/
  found : Std.ExtTreeSet Address

namespace Search

/-- A search that has not begun. -/
def start (name : String) : Search :=
  ⟨[name], ∅, ∅⟩

/--
Takes the next name. Unless it has had its turn, the cells that read it are found, in the given
order, and their own names are put on the stack.
-/
def step
    (cells : List (Address × Expression))
    (search : Search) :
    Search :=
  match search.pending with
  | [] => search
  | name :: others =>
    if name ∈ search.visited then
      { search with pending := others }
    else
      let readers := (cells.filter (reads name)).map Prod.fst
      { pending := (readers.map Address.text).reverse ++ others
        visited := search.visited.insert name
        found := search.found.insertMany readers }

/-- The names that can still get their turn: those of cells, and pending ones of no cell. -/
def unvisited
    (cells : List (Address × Expression))
    (search : Search) :
    List String :=
  let names := cells.map (·.1.text)
  (names ++ search.pending.filter (· ∉ names)).filter (· ∉ search.visited)

/-- A number of steps in which the search comes to its end. -/
def bound
    (cells : List (Address × Expression))
    (search : Search) :
    Nat :=
  search.pending.length + cells.length * (search.unvisited cells).length

/-- A name that has its turn leaves the names that can still get it, and none is added. -/
theorem unvisited_step
    (cells : List (Address × Expression))
    {search : Search}
    {name : String}
    {others : List String}
    (isPending : search.pending = name :: others)
    (isNew : name ∉ search.visited) :
    (search.step cells).unvisited cells =
      (({ search with pending := others } : Search).unvisited cells).filter (· ≠ name) := by
  have ofCells :
      ((((cells.filter (reads name)).map Prod.fst).map Address.text).reverse).filter
        (· ∉ cells.map (·.1.text)) = [] := by
    rw [List.filter_eq_nil_iff]
    intro other member
    simp only [List.map_map, List.mem_reverse, List.mem_map, List.mem_filter] at member
    obtain ⟨cell, ⟨inside, _⟩, isText⟩ := member
    simpa using ⟨cell.1, ⟨cell.2, inside⟩, isText⟩
  simp only [unvisited, step, isPending, if_neg isNew, List.filter_append, ofCells,
    List.nil_append, List.filter_filter]
  have stillUnvisited :
      ∀ other, other ∉ search.visited.insert name ↔ other ≠ name ∧ other ∉ search.visited := by
    intro other
    rw [Std.ExtTreeSet.mem_insert, Std.LawfulEqCmp.compare_eq_iff_eq, not_or, ne_comm]
  simp only [stillUnvisited, Bool.decide_and, Bool.and_assoc]

theorem unvisited_sublist
    (cells : List (Address × Expression))
    {search : Search}
    {name : String}
    {others : List String}
    (isPending : search.pending = name :: others) :
    List.Sublist (({ search with pending := others } : Search).unvisited cells)
      (search.unvisited cells) := by
  simp only [unvisited, isPending]
  exact (((List.sublist_cons_self name others).filter _).append_left _).filter _

theorem length_unvisited_step_lt
    (cells : List (Address × Expression))
    {search : Search}
    {name : String}
    {others : List String}
    (isPending : search.pending = name :: others)
    (isNew : name ∉ search.visited) :
    ((search.step cells).unvisited cells).length < (search.unvisited cells).length := by
  have before : name ∈ search.unvisited cells := by
    by_cases isText : name ∈ cells.map (·.1.text)
    · simp [unvisited, isNew, isText]
    · simp [unvisited, isPending, isNew, isText]
  rw [unvisited_step cells isPending isNew]
  calc ((({ search with pending := others } : Search).unvisited cells).filter (· ≠ name)).length
      ≤ ((search.unvisited cells).filter (· ≠ name)).length :=
        ((unvisited_sublist cells isPending).filter _).length_le
    _ < (search.unvisited cells).length :=
        List.length_filter_lt_length_iff_exists.mpr ⟨name, before, by simp⟩

/-- Every step brings the search closer to its end. -/
theorem bound_step_lt
    (cells : List (Address × Expression))
    {search : Search}
    (underWay : search.pending ≠ []) :
    (search.step cells).bound cells < search.bound cells := by
  obtain ⟨name, others, isPending⟩ := List.exists_cons_of_ne_nil underWay
  by_cases isVisited : name ∈ search.visited
  · have atMost := (unvisited_sublist cells isPending).length_le
    have total := Nat.mul_le_mul_left cells.length atMost
    simp only [bound, step, isPending, if_pos isVisited, List.length_cons]
    omega
  · have fewer := length_unvisited_step_lt cells isPending isVisited
    have total := Nat.mul_le_mul_left cells.length fewer
    have readers := List.length_filter_le (reads name) cells
    have pendingAfter :
        (search.step cells).pending.length =
          (cells.filter (reads name)).length + others.length := by
      simp [step, isPending, isVisited]
    simp only [bound, isPending, pendingAfter, List.length_cons]
    rw [Nat.mul_succ] at total
    omega

/-- The search at its end. -/
def run
    (cells : List (Address × Expression))
    (search : Search) :
    Search :=
  if search.pending = [] then
    search
  else
    run cells (search.step cells)
termination_by search.bound cells
decreasing_by
  exact bound_step_lt cells (by assumption)

end Search

/-- The written cells that read the cell of an address, directly or through other cells. -/
def dependents
    (sheet : Sheet)
    (address : Address) :
    Std.ExtTreeSet Address :=
  ((Search.start address.text).run sheet.cells.toList).found

/-- The first cell stands in a column before that of the second one, or not below it in the same. -/
def precedesByColumn (first second : Address) : Bool :=
  first.column < second.column ||
    (first.column == second.column && first.row ≤ second.row)

/-- The cells that read the cell of an address, column by column from top to bottom. -/
def dependentsByColumn
    (sheet : Sheet)
    (address : Address) :
    List Address :=
  (sheet.dependents address).toList.mergeSort precedesByColumn

end Spreadsheet.Sheet
