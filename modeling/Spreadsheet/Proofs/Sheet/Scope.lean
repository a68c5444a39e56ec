import Spreadsheet.Proofs.Evaluation.Limit
import Spreadsheet.Proofs.Formula.NormalForm
import Spreadsheet.Proofs.Sheet.BuiltIns
import Spreadsheet.Proofs.Sheet.Dependents

namespace Spreadsheet.Sheet

/-!
# What names mean in a sheet

A name means a built-in, or the expression of the written cell whose address it is, or nothing. No
name has two meanings, because the name of a built-in writes no address and two cells never have the
same address. A built-in keeps its meaning whatever is written, and formulas can mention it unless
its name is also a number: then the number is read instead.
-/

/-- The meaning of a name for formulas that are written to the sheet. -/
inductive Means (sheet : Sheet) (name : String) : Option Expression → Prop where
  | builtIn {expression : Expression} :
      sheet.builtIns[name]? = some expression →
      Means sheet name (some expression)
  | cell {address : Address} {expression : Expression} :
      address.text = name →
      sheet.expressionAt? address = some expression →
      Means sheet name (some expression)
  | nothing :
      name ∉ sheet.builtIns →
      (∀ address : Address, address.text = name → sheet.expressionAt? address = none) →
      Means sheet name none

/-- The text of an address cannot be the name of a built-in. -/
theorem not_canBeBuiltIn_text
    (address : Address) :
    ¬ CanBeBuiltIn address.text := by
  rintro ⟨_, noAddress⟩
  simp [Address.ofText?_text] at noAddress

section Snapshot

variable
  {sheet : Sheet}
  (named : BindsBuiltInNames sheet.builtIns)

include named

/-- The text of an address is not the name of a built-in. -/
theorem text_not_mem_builtIns
    (address : Address) :
    address.text ∉ sheet.builtIns :=
  fun isBuiltIn => not_canBeBuiltIn_text address (named _ isBuiltIn)

/-- A built-in is in the snapshot under its name, whatever has been written. -/
theorem getElem?_snapshot_of_builtIn
    {name : String}
    {expression : Expression}
    (builtIn : sheet.builtIns[name]? = some expression) :
    sheet.snapshot[name]? = some expression := by
  have noAddress : ∀ address : Address, address.text ≠ name := by
    rintro address rfl
    obtain ⟨isBuiltIn, _⟩ := Std.ExtTreeMap.getElem?_eq_some_iff.mp builtIn
    exact text_not_mem_builtIns named address isBuiltIn
  exact (getElem?_snapshot_of_no_address sheet noAddress).trans builtIn

/-- What a name means is what the snapshot binds it to. -/
theorem means_snapshot
    (name : String) :
    sheet.Means name sheet.snapshot[name]? := by
  cases looksUp : sheet.snapshot[name]? with
  | some expression =>
      rcases getElem?_snapshot_eq_some looksUp with ⟨address, isText, written⟩ | builtIn
      · exact .cell isText written
      · exact .builtIn builtIn
  | none =>
      apply Means.nothing
      · intro isBuiltIn
        have builtIn := Std.ExtTreeMap.getElem?_eq_some_getElem isBuiltIn
        have binds := getElem?_snapshot_of_builtIn named builtIn
        exact Option.some_ne_none _ (binds.symm.trans looksUp)
      · rintro address rfl
        have neither := (getElem?_snapshot_text sheet address).symm.trans looksUp
        exact (Option.or_eq_none_iff.mp neither).1

/-- Looking up a name in the snapshot finds what the name means, and nothing else. -/
theorem getElem?_snapshot_eq_iff_means
    {name : String}
    {meaning : Option Expression} :
    sheet.snapshot[name]? = meaning ↔ sheet.Means name meaning := by
  constructor
  · rintro rfl
    exact means_snapshot named name
  · intro means
    cases means with
    | builtIn builtIn =>
        exact getElem?_snapshot_of_builtIn named builtIn
    | cell isText written =>
        subst isText
        simp only [getElem?_snapshot_text, written, Option.some_or]
    | nothing notBuiltIn unwritten =>
        have noBuiltIn := Std.ExtTreeMap.getElem?_eq_none notBuiltIn
        by_cases isAddress : ∃ address : Address, address.text = name
        · obtain ⟨address, rfl⟩ := isAddress
          simp only [getElem?_snapshot_text, unwritten address rfl, noBuiltIn, Option.none_or]
        · have noAddress : ∀ address : Address, address.text ≠ name :=
            fun address isText => isAddress ⟨address, isText⟩
          exact (getElem?_snapshot_of_no_address sheet noAddress).trans noBuiltIn

/-- The snapshot has as many bindings as there are built-ins and written cells. -/
theorem size_snapshot :
    sheet.snapshot.size = sheet.builtIns.size + sheet.cells.size := by
  have unbound : ∀ cell ∈ sheet.cells.toList, cell.1.text ∉ sheet.builtIns :=
    fun cell _ => text_not_mem_builtIns named cell.1
  rw [snapshot_eq_bindCells, size_bindCells sheet.distinct_cells unbound,
    Std.ExtTreeMap.length_toList]

end Snapshot

section Reached

variable
  {parse : String → Except FormulaError Expression}
  {rows columns : UInt64}
  {filler : Expression}
  {builtIns : List (String × Expression)}
  {initial sheet : Sheet}

/-- No run gives a sheet a built-in with another kind of name. -/
theorem bindsBuiltInNames_of_reachedFrom
    (built : buildWith parse rows columns filler builtIns = .ok initial)
    (reached : ReachedFrom initial sheet) :
    BindsBuiltInNames sheet.builtIns :=
  fun _ => canBeBuiltIn_of_mem_builtIns built reached

/--
Whatever is written to a sheet, its snapshot is the disjoint union of the built-ins that it was built
with, of which the last one of a name counts, and of its written cells under their addresses. No name
has two meanings, no two cells have one name, and the order of the cells makes no difference.
-/
theorem snapshot_is_disjoint_union
    (built : buildWith parse rows columns filler builtIns = .ok initial)
    (reached : ReachedFrom initial sheet) :
    (∀ name, sheet.builtIns[name]? = builtIns.reverse.lookup name) ∧
    (∀ name meaning, sheet.snapshot[name]? = meaning ↔ sheet.Means name meaning) ∧
    (∀ name ∈ sheet.builtIns, ∀ cell : Address, cell.text ≠ name) ∧
    (∀ first second : Address, first.text = second.text → first = second) ∧
    sheet.snapshot.size = sheet.builtIns.size + sheet.cells.size ∧
    ∀ cells, sheet.IsListedBy cells → bindCells sheet.builtIns cells = sheet.snapshot := by
  have named := bindsBuiltInNames_of_reachedFrom built reached
  have asBuilt := (isAsBuilt_of_build_eq_ok built).of_reachedFrom reached
  refine ⟨?_, ?_, ?_, ?_, size_snapshot named, ?_⟩
  · intro name
    rw [asBuilt.builtIns_eq]
    exact getElem?_builtIns_of_buildWith built name
  · exact fun name meaning => getElem?_snapshot_eq_iff_means named
  · rintro name isBuiltIn cell rfl
    exact text_not_mem_builtIns named cell isBuiltIn
  · exact fun first second => Address.text_injective
  · intro cells listed
    rw [snapshot_eq_bindCells]
    exact (bindCells_eq_of_perm sheet.distinct_cells listed.symm _).symm

end Reached

theorem lifeSheet_snapshot_after_write :
    let cell : Address := ⟨1, ⟨2, by decide⟩⟩
    let sheet := (lifeSheet.perform (.expression cell (.constant 5))).1
    buildWith Formula.parse 3 3 .empty [("life", .constant 42)] = .ok lifeSheet ∧
      ReachedFrom lifeSheet sheet ∧
      sheet.snapshot["life"]? = some (.constant 42) ∧
      sheet.snapshot["C1"]? = some (.constant 5) ∧
      sheet.snapshot["A0"]? = none ∧
      sheet.snapshot.size = 2 := by
  intro cell sheet
  have reached : ReachedFrom lifeSheet sheet :=
    .perform _ .start
  obtain ⟨_, looksUp, _, _, size, _⟩ := snapshot_is_disjoint_union buildWith_eq_ok_lifeSheet reached
  have cellText : cell.text = "C1" := by
    decide
  have unwritten :
      ∀ address : Address, address.text = "A0" → sheet.expressionAt? address = none := by
    intro address isText
    have corner : Address.text ⟨0, ⟨0, zero_lt_columnLimit⟩⟩ = "A0" := by
      decide
    obtain rfl := Address.text_injective (isText.trans corner.symm)
    rfl
  exact ⟨buildWith_eq_ok_lifeSheet, reached, (looksUp _ _).mpr (.builtIn rfl),
    (looksUp _ _).mpr (.cell cellText rfl), (looksUp _ _).mpr (.nothing (by decide) unwritten),
    size⟩

/-! ## Formulas that mention built-ins -/

/-- A name of letters and numbers is read as a name unless it is also a number. -/
theorem parse_name_iff
    {name : String}
    (canBeBuiltIn : CanBeBuiltIn name) :
    Formula.parse name = .ok (.reference name) ↔
      ∀ value, ¬ Formula.IsLiteral name.toList value := by
  constructor
  · intro parsed
    exact (Formula.isName_of_parse parsed (List.mem_singleton_self name)).2.2
  · intro noLiteral
    obtain ⟨nonempty, alphanumeric⟩ := Formula.isName_eq_true_iff.mp canBeBuiltIn.1
    exact Formula.parse_of_isName ⟨nonempty, alphanumeric, noLiteral⟩

/--
A formula that consists of the name of a built-in reads the built-in, unless the name is a number;
then it reads the number, and no formula mentions the name. Whatever is written to the sheet, the
name stays bound to the built-in, and every formula that mentions it is evaluated with what the
built-in evaluates to.
-/
theorem builtIn_is_read_unless_number
    {rows columns : UInt64}
    {filler : Expression}
    {builtIns : List (String × Expression)}
    {initial sheet : Sheet}
    (built : build rows columns filler builtIns = .ok initial)
    (reached : ReachedFrom initial sheet)
    {name : String}
    {expression : Expression}
    (builtIn : initial.builtIns[name]? = some expression) :
    (sheet.parse name = .ok (.reference name) ↔
      ∀ value, ¬ Formula.IsLiteral name.toList value) ∧
    (∀ value, Formula.IsLiteral name.toList value →
      sheet.parse name = .ok (.constant value) ∧
        ∀ text formula, sheet.parse text = .ok formula → name ∉ formula.references) ∧
    sheet.snapshot[name]? = some expression ∧
    ∀ formula : Expression,
      Outcome.Same (formula.evaluate sheet.snapshot)
        (formula.reduce
          (Function.update (Expression.resolve sheet.snapshot sheet.snapshot.size) name
            (expression.evaluate sheet.snapshot))) := by
  have asBuilt := (isAsBuilt_of_build_eq_ok built).of_reachedFrom reached
  rw [← asBuilt.builtIns_eq] at builtIn
  have named := bindsBuiltInNames_of_reachedFrom built reached
  obtain ⟨isBuiltIn, _⟩ := Std.ExtTreeMap.getElem?_eq_some_iff.mp builtIn
  have binds := getElem?_snapshot_of_builtIn named builtIn
  rw [parse_eq_of_reachedFrom built reached]
  refine ⟨parse_name_iff (named name isBuiltIn), ?_, binds, ?_⟩
  · intro value isLiteral
    refine ⟨Formula.parse_of_isAtom (.literal isLiteral), ?_⟩
    intro text formula parsed mentioned
    exact (Formula.isName_of_parse parsed mentioned).2.2 value isLiteral
  · exact Expression.evaluate_same_reduce_update binds

theorem lifeSheet_reads_life :
    let sheet := (lifeSheet.perform (.expression ⟨0, ⟨0, zero_lt_columnLimit⟩⟩ (.constant 7))).1
    build 3 3 .empty [("life", .constant 42)] = .ok lifeSheet ∧
      ReachedFrom lifeSheet sheet ∧
      lifeSheet.builtIns["life"]? = some (.constant 42) ∧
      sheet.parse "life" = .ok (.reference "life") ∧
      sheet.snapshot["life"]? = some (.constant 42) := by
  intro sheet
  have reached : ReachedFrom lifeSheet sheet :=
    .perform _ .start
  have builtIn : lifeSheet.builtIns["life"]? = some (.constant 42) := by
    rfl
  have noLiteral : ∀ value, ¬ Formula.IsLiteral "life".toList value :=
    Formula.literal?_eq_none_iff.mp (by decide)
  obtain ⟨isRead, _, binds, _⟩ :=
    builtIn_is_read_unless_number buildWith_eq_ok_lifeSheet reached builtIn
  exact ⟨buildWith_eq_ok_lifeSheet, reached, builtIn, isRead.mpr noLiteral, binds⟩

/-- A sheet whose built-in has a number for its name. -/
def numberNamedSheet : Sheet :=
  { Grid.blank 3 3 .empty with
    builtIns := (∅ : Context).insert "42" (.constant 1)
    parse := Formula.parse }

/-- The name is accepted, also in a configuration, but the number is read in its place. -/
theorem numberNamedSheet_reads_number :
    let config : Config := ⟨3, 3, (∅ : Std.ExtTreeMap String Int64).insert "42" 1⟩
    build 3 3 .empty [("42", .constant 1)] = .ok numberNamedSheet ∧
      config.buildSheet = .ok numberNamedSheet ∧
      numberNamedSheet.builtIns["42"]? = some (.constant 1) ∧
      numberNamedSheet.parse "42" = .ok (.constant 42) ∧
      numberNamedSheet.parse "42" ≠ .ok (.reference "42") := by
  intro config
  have parses : numberNamedSheet.parse "42" = .ok (.constant 42) :=
    Formula.parse_of_isAtom (.literal (Formula.literal?_eq_some_iff.mp (by decide)))
  refine ⟨rfl, rfl, rfl, parses, ?_⟩
  rw [parses]
  simp

end Spreadsheet.Sheet
