import Spreadsheet.Sheet

namespace Spreadsheet.Sheet

/-!
# Looking up names in a snapshot

The text of an address means the expression of its cell once the cell has been written. Every other
name, and the address of a cell that has not been written, means what the built-ins say. Writing to
a cell therefore changes the snapshot at the address of the cell and nowhere else.
-/

/-- A context with cells bound to their addresses. -/
def bindCells
    (context : Context)
    (cells : List (Address × Expression)) :
    Context :=
  cells.foldl (fun bound cell => bound.insert cell.1.text cell.2) context

theorem snapshot_eq_bindCells
    (sheet : Sheet) :
    sheet.snapshot = bindCells sheet.builtIns sheet.cells.toList :=
  Std.ExtTreeMap.foldl_eq_foldl_toList

theorem getElem?_bindCells_of_no_cell
    {cells : List (Address × Expression)}
    {name : String}
    (noCell : ∀ cell ∈ cells, cell.1.text ≠ name)
    (context : Context) :
    (bindCells context cells)[name]? = context[name]? := by
  induction cells generalizing context with
  | nil =>
      rfl
  | cons cell later inductionHypothesis =>
      have different : compare cell.1.text name ≠ .eq := fun same =>
        noCell cell (List.mem_cons_self ..) (Std.LawfulEqOrd.eq_of_compare same)
      have noLaterCell : ∀ other ∈ later, other.1.text ≠ name :=
        fun other inLater => noCell other (List.mem_cons_of_mem _ inLater)
      calc (bindCells context (cell :: later))[name]?
          = (context.insert cell.1.text cell.2)[name]? :=
            inductionHypothesis noLaterCell _
        _ = context[name]? := by
            simp only [Std.ExtTreeMap.getElem?_insert, if_neg different]

theorem getElem?_bindCells_of_mem
    {cells : List (Address × Expression)}
    {address : Address}
    {expression : Expression}
    (distinct : cells.Pairwise fun first second => first.1 ≠ second.1)
    (member : (address, expression) ∈ cells)
    (context : Context) :
    (bindCells context cells)[address.text]? = some expression := by
  induction cells generalizing context with
  | nil =>
      contradiction
  | cons cell later inductionHypothesis =>
      obtain ⟨notLater, laterDistinct⟩ := List.pairwise_cons.mp distinct
      rcases List.mem_cons.mp member with isHead | inLater
      · subst isHead
        have noCell : ∀ other ∈ later, other.1.text ≠ address.text := by
          intro other inLater sameText
          exact notLater other inLater (Address.text_injective sameText.symm)
        calc (bindCells context ((address, expression) :: later))[address.text]?
            = (context.insert address.text expression)[address.text]? :=
              getElem?_bindCells_of_no_cell noCell _
          _ = some expression :=
              Std.ExtTreeMap.getElem?_insert_self
      · exact inductionHypothesis laterDistinct inLater _

/-- It makes no difference in which order different cells are bound. -/
theorem bindCells_eq_of_perm
    {cells others : List (Address × Expression)}
    (distinct : cells.Pairwise fun first second => first.1 ≠ second.1)
    (reordered : cells.Perm others)
    (context : Context) :
    bindCells context cells = bindCells context others := by
  have othersDistinct : others.Pairwise fun first second => first.1 ≠ second.1 :=
    reordered.pairwise distinct fun different => different.symm
  apply Std.ExtTreeMap.ext_getElem?
  intro name
  by_cases isText : ∃ cell ∈ cells, cell.1.text = name
  · obtain ⟨⟨address, expression⟩, member, rfl⟩ := isText
    simp only [getElem?_bindCells_of_mem distinct member,
      getElem?_bindCells_of_mem othersDistinct (reordered.mem_iff.mp member)]
  · have noCell : ∀ cell ∈ cells, cell.1.text ≠ name :=
      fun cell member sameText => isText ⟨cell, member, sameText⟩
    have noOther : ∀ other ∈ others, other.1.text ≠ name :=
      fun other member => noCell other (reordered.mem_iff.mpr member)
    simp only [getElem?_bindCells_of_no_cell noCell, getElem?_bindCells_of_no_cell noOther]

theorem bindCells_eq_insertMany
    (context : Context)
    (cells : List (Address × Expression)) :
    bindCells context cells =
      context.insertMany (cells.map fun cell => (cell.1.text, cell.2)) := by
  induction cells generalizing context with
  | nil =>
      rfl
  | cons cell later inductionHypothesis =>
      simp only [List.map_cons, Std.ExtTreeMap.insertMany_cons, ← inductionHypothesis]
      rfl

/-- Different cells whose addresses mean nothing yet are as many bindings more. -/
theorem size_bindCells
    {context : Context}
    {cells : List (Address × Expression)}
    (distinct : cells.Pairwise fun first second => first.1 ≠ second.1)
    (unbound : ∀ cell ∈ cells, cell.1.text ∉ context) :
    (bindCells context cells).size = context.size + cells.length := by
  have distinctTexts :
      (cells.map fun cell => (cell.1.text, cell.2)).Pairwise fun first second =>
        ¬ compare first.1 second.1 = .eq := by
    apply List.pairwise_map.mpr
    apply distinct.imp
    intro first second different sameText
    exact different (Address.text_injective (Std.LawfulEqOrd.eq_of_compare sameText))
  rw [bindCells_eq_insertMany, Std.ExtTreeMap.size_insertMany_list distinctTexts, List.length_map]
  intro name isBound
  rw [List.map_map, ← Bool.not_eq_true, List.contains_iff_mem, List.mem_map]
  rintro ⟨cell, member, rfl⟩
  exact unbound cell member isBound

theorem distinct_cells
    (sheet : Sheet) :
    sheet.cells.toList.Pairwise fun first second => first.1 ≠ second.1 := by
  apply Std.ExtTreeMap.distinct_keys_toList.imp
  rintro first second different same
  rw [same] at different
  exact different Std.ReflCmp.compare_self

/-- The address of a cell means the expression of the cell, and what is built in before that. -/
theorem getElem?_snapshot_text
    (sheet : Sheet)
    (address : Address) :
    sheet.snapshot[address.text]? =
      (sheet.expressionAt? address).or sheet.builtIns[address.text]? := by
  rw [snapshot_eq_bindCells]
  cases written : sheet.expressionAt? address with
  | some expression =>
      have member : (address, expression) ∈ sheet.cells.toList :=
        Std.ExtTreeMap.mem_toList_iff_getElem?_eq_some.mpr written
      simp only [getElem?_bindCells_of_mem sheet.distinct_cells member, Option.some_or]
  | none =>
      have noCell : ∀ cell ∈ sheet.cells.toList, cell.1.text ≠ address.text := by
        rintro ⟨other, expression⟩ member sameText
        obtain rfl := Address.text_injective sameText
        have otherWritten := Std.ExtTreeMap.mem_toList_iff_getElem?_eq_some.mp member
        simp [Grid.expressionAt?, otherWritten] at written
      simp only [getElem?_bindCells_of_no_cell noCell, Option.none_or]

/-- A name that is not the text of an address means what is built in. -/
theorem getElem?_snapshot_of_no_address
    (sheet : Sheet)
    {name : String}
    (noAddress : ∀ address : Address, address.text ≠ name) :
    sheet.snapshot[name]? = sheet.builtIns[name]? := by
  rw [snapshot_eq_bindCells]
  exact getElem?_bindCells_of_no_cell (fun cell _ => noAddress cell.1) _

/-- What a name means is the expression of a cell of this address, or built in. -/
theorem getElem?_snapshot_eq_some
    {sheet : Sheet}
    {name : String}
    {binding : Expression}
    (binds : sheet.snapshot[name]? = some binding) :
    (∃ address : Address, address.text = name ∧ sheet.expressionAt? address = some binding) ∨
      sheet.builtIns[name]? = some binding := by
  by_cases isAddress : ∃ address : Address, address.text = name
  · obtain ⟨address, rfl⟩ := isAddress
    rw [getElem?_snapshot_text, Option.or_eq_some_iff] at binds
    rcases binds with written | ⟨_, builtIn⟩
    · exact Or.inl ⟨address, rfl, written⟩
    · exact Or.inr builtIn
  · have noAddress : ∀ address : Address, address.text ≠ name :=
      fun address isText => isAddress ⟨address, isText⟩
    rw [getElem?_snapshot_of_no_address sheet noAddress] at binds
    exact Or.inr binds

/-- Writing to a cell binds its address and no other name. -/
theorem snapshot_keep
    (sheet : Sheet)
    (address : Address)
    (expression : Expression) :
    (sheet.keep address expression).snapshot = sheet.snapshot.insert address.text expression := by
  apply Std.ExtTreeMap.ext_getElem?
  intro name
  by_cases isText : address.text = name
  · subst isText
    rw [getElem?_snapshot_text, Std.ExtTreeMap.getElem?_insert_self]
    simp only [keep, Grid.expressionAt?_put_self, Option.some_or]
  · have different : compare address.text name ≠ .eq := fun same =>
      isText (Std.LawfulEqOrd.eq_of_compare same)
    rw [Std.ExtTreeMap.getElem?_insert, if_neg different]
    by_cases isAddress : ∃ other : Address, other.text = name
    · obtain ⟨other, rfl⟩ := isAddress
      have distinct : address ≠ other := fun same => isText (by rw [same])
      simp only [getElem?_snapshot_text, keep, Grid.expressionAt?_put_of_ne _ _ distinct]
    · have noAddress : ∀ other : Address, other.text ≠ name :=
        fun other sameText => isAddress ⟨other, sameText⟩
      simp only [getElem?_snapshot_of_no_address _ noAddress, keep]

end Spreadsheet.Sheet
