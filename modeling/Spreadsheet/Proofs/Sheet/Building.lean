import Spreadsheet.Proofs.Address
import Spreadsheet.Proofs.Sheet.BuiltIns
import Spreadsheet.Proofs.Text.ByteOrder

namespace Spreadsheet

/-!
# Building a sheet

A sheet is built unless it has too many columns or one of its built-ins has a name that it cannot
have. Of several such names the first one is reported, and of several built-ins of one name the last
one counts. A configuration gives its built-ins in the order of the bytes of their names, so it is
the least of the names that is reported.
-/

namespace Sheet

/-- The name cannot be that of a built-in: it is not a name at all, or it is an address. -/
inductive IsRefusedFor (name : String) : SheetError → Prop where
  | invalid :
      (name = "" ∨ ∃ character ∈ name.toList, Text.isAlphanumeric character = false) →
      IsRefusedFor name (.invalidBuiltIn name)
  | address {address : Address} :
      Address.ofText? name = some address →
      IsRefusedFor name (.builtInIsAddress name)

/-- There is a reason for which the name cannot be that of a built-in. -/
def IsRefused (name : String) : Prop :=
  ∃ cause, IsRefusedFor name cause

/-- The first name in the list that is refused. -/
def IsFirstRefused
    (builtIns : List (String × Expression))
    (name : String) : Prop :=
  ∃ earlier expression later,
    builtIns = earlier ++ (name, expression) :: later ∧
      (∀ binding ∈ earlier, ¬ IsRefused binding.1) ∧
      IsRefused name

/-- The last binding of the name in the list binds it to the expression. -/
def IsLastBinding
    (builtIns : List (String × Expression))
    (name : String)
    (expression : Expression) : Prop :=
  ∃ earlier later,
    builtIns = earlier ++ (name, expression) :: later ∧
      ∀ binding ∈ later, binding.1 ≠ name

/-- A sheet with no cell written, and with the given built-ins. -/
structure IsNew
    (parse : String → Except FormulaError Expression)
    (rows columns : UInt64)
    (filler : Expression)
    (binds : String → Expression → Prop)
    (sheet : Sheet) : Prop where
  parse_eq : sheet.parse = parse
  rows_eq : sheet.rows = rows
  columns_eq : sheet.columns = columns
  filler_eq : sheet.filler = filler
  not_isWritten : ∀ cell, ¬ sheet.IsWritten cell
  builtIn_iff : ∀ name expression, sheet.builtIns[name]? = some expression ↔ binds name expression

/--
What becomes of a sheet that is to be built: it has too many columns, or else a name is reported, or
else there is no name to report and the sheet is new.
-/
inductive BuildsTo
    (parse : String → Except FormulaError Expression)
    (rows columns : UInt64)
    (filler : Expression)
    (isReported : String → Prop)
    (binds : String → Expression → Prop) :
    Except SheetError Sheet → Prop where
  | tooManyColumns :
      26 < columns.toNat →
      BuildsTo parse rows columns filler isReported binds (.error (.tooManyColumns columns))
  | refused {name : String} {cause : SheetError} :
      columns.toNat ≤ 26 →
      isReported name →
      IsRefusedFor name cause →
      BuildsTo parse rows columns filler isReported binds (.error cause)
  | built {sheet : Sheet} :
      columns.toNat ≤ 26 →
      (∀ name, ¬ isReported name) →
      IsNew parse rows columns filler binds sheet →
      BuildsTo parse rows columns filler isReported binds (.ok sheet)

/-! ## Names that are refused -/

theorem isName_eq_false_iff
    {name : String} :
    Formula.isName name.toList = false ↔
      name = "" ∨ ∃ character ∈ name.toList, Text.isAlphanumeric character = false := by
  rw [Formula.isName, Bool.and_eq_false_iff, List.all_eq_false]
  simp

/-- A built-in is refused for whatever there is against its name. -/
theorem addBuiltIn_eq_error_iff
    {before : Context}
    {name : String}
    {expression : Expression}
    {cause : SheetError} :
    addBuiltIn before (name, expression) = .error cause ↔ IsRefusedFor name cause := by
  simp only [addBuiltIn]
  constructor
  · intro refuses
    cases isName : Formula.isName name.toList with
    | false =>
        simp only [isName, Bool.not_false, if_true] at refuses
        obtain rfl := Except.error.inj refuses
        exact .invalid (isName_eq_false_iff.mp isName)
    | true =>
        cases isAddress : Address.ofText? name with
        | none =>
            simp [isName, isAddress] at refuses
        | some address =>
            simp only [isName, isAddress, Bool.not_true, Bool.false_eq_true, if_false,
              Option.isSome_some, if_true] at refuses
            obtain rfl := Except.error.inj refuses
            exact .address isAddress
  · intro refused
    cases refused with
    | invalid noName =>
        simp [isName_eq_false_iff.mpr noName]
    | address isAddress =>
        obtain ⟨nonempty, alphanumeric, -⟩ := Address.isName_of_ofText?_eq_some isAddress
        have isName : Formula.isName name.toList = true :=
          Formula.isName_eq_true_iff.mpr ⟨nonempty, alphanumeric⟩
        simp [isName, isAddress]

/-- A name is refused exactly if it cannot be that of a built-in. -/
theorem canBeBuiltIn_iff_not_isRefused
    {name : String} :
    CanBeBuiltIn name ↔ ¬ IsRefused name := by
  -- Adding the name to no other built-ins shows which of the two it is.
  cases adds : addBuiltIn ∅ (name, .empty) with
  | error cause =>
      have refused : IsRefused name := ⟨cause, addBuiltIn_eq_error_iff.mp adds⟩
      have cannot : ¬ CanBeBuiltIn name := by
        intro canBeBuiltIn
        rw [addBuiltIn_eq_ok_iff.mpr ⟨canBeBuiltIn, rfl⟩] at adds
        contradiction
      exact iff_of_false cannot (not_not_intro refused)
  | ok after =>
      refine iff_of_true (addBuiltIn_eq_ok_iff.mp adds).1 ?_
      rintro ⟨cause, refused⟩
      rw [addBuiltIn_eq_error_iff.mpr refused] at adds
      contradiction

/-- The first name is reported if it is refused, and otherwise one of the later ones. -/
theorem isFirstRefused_cons_iff
    {other name : String}
    {expression : Expression}
    {later : List (String × Expression)} :
    IsFirstRefused ((other, expression) :: later) name ↔
      other = name ∧ IsRefused name ∨ ¬ IsRefused other ∧ IsFirstRefused later name := by
  constructor
  · rintro ⟨earlier, bound, rest, shape, usable, refused⟩
    cases earlier with
    | nil =>
        obtain ⟨isFirst, -⟩ := List.cons.inj shape
        obtain ⟨rfl, -⟩ := Prod.mk.inj isFirst
        exact Or.inl ⟨rfl, refused⟩
    | cons binding earlier =>
        obtain ⟨rfl, rfl⟩ := List.cons.inj shape
        obtain ⟨firstUsable, restUsable⟩ := List.forall_mem_cons.mp usable
        exact Or.inr ⟨firstUsable, earlier, bound, rest, rfl, restUsable, refused⟩
  · rintro (⟨rfl, refused⟩ | ⟨firstUsable, earlier, bound, rest, rfl, restUsable, refused⟩)
    · exact ⟨[], expression, later, rfl, by simp, refused⟩
    · exact ⟨(other, expression) :: earlier, bound, rest, rfl,
        List.forall_mem_cons.mpr ⟨firstUsable, restUsable⟩, refused⟩

/-- Built-ins are refused for the name that is refused first. -/
theorem foldlM_addBuiltIn_eq_error_iff
    {builtIns : List (String × Expression)}
    {before : Context}
    {cause : SheetError} :
    builtIns.foldlM addBuiltIn before = .error cause ↔
      ∃ name, IsFirstRefused builtIns name ∧ IsRefusedFor name cause := by
  induction builtIns generalizing before with
  | nil =>
      refine iff_of_false (by simp [pure, Except.pure]) ?_
      rintro ⟨name, ⟨earlier, expression, later, shape, -⟩, -⟩
      simp at shape
  | cons binding later inductionHypothesis =>
      obtain ⟨name, expression⟩ := binding
      rw [List.foldlM_cons]
      cases adds : addBuiltIn before (name, expression) with
      | error first =>
          have refusedFor := addBuiltIn_eq_error_iff.mp adds
          have refused : IsRefused name := ⟨first, refusedFor⟩
          constructor
          · rintro ⟨⟩
            exact ⟨name, isFirstRefused_cons_iff.mpr (Or.inl ⟨rfl, refused⟩), refusedFor⟩
          · rintro ⟨reported, isFirst, reportedFor⟩
            rcases isFirstRefused_cons_iff.mp isFirst with ⟨rfl, -⟩ | ⟨usable, -⟩
            · rw [← adds, addBuiltIn_eq_error_iff.mpr reportedFor]
              rfl
            · exact absurd refused usable
      | ok middle =>
          have usable : ¬ IsRefused name :=
            canBeBuiltIn_iff_not_isRefused.mp (addBuiltIn_eq_ok_iff.mp adds).1
          have addsLater :
              (Except.ok middle >>= fun context => later.foldlM addBuiltIn context) =
                later.foldlM addBuiltIn middle := rfl
          rw [addsLater, inductionHypothesis]
          refine exists_congr fun reported => and_congr_left fun _ => ?_
          rw [isFirstRefused_cons_iff, and_iff_right usable]
          refine (or_iff_right ?_).symm
          rintro ⟨rfl, refused⟩
          exact usable refused

/-- Built-ins are accepted if no name is refused first. -/
theorem exists_foldlM_addBuiltIn_eq_ok_iff
    {builtIns : List (String × Expression)}
    {before : Context} :
    (∃ after, builtIns.foldlM addBuiltIn before = .ok after) ↔
      ∀ name, ¬ IsFirstRefused builtIns name := by
  constructor
  · rintro ⟨after, adds⟩ name isFirst
    have ⟨_, _, _, _, _, cause, refusedFor⟩ := isFirst
    rw [foldlM_addBuiltIn_eq_error_iff.mpr ⟨name, isFirst, refusedFor⟩] at adds
    contradiction
  · intro noneFirst
    cases adds : builtIns.foldlM addBuiltIn before with
    | error cause =>
        obtain ⟨name, isFirst, -⟩ := foldlM_addBuiltIn_eq_error_iff.mp adds
        exact absurd isFirst (noneFirst name)
    | ok after =>
        exact ⟨after, rfl⟩

/-! ## The built-ins of a new sheet -/

/-- Of the built-ins of one name the last one is found. -/
theorem isLastBinding_iff_lookup_reverse
    {builtIns : List (String × Expression)}
    {name : String}
    {expression : Expression} :
    IsLastBinding builtIns name expression ↔
      builtIns.reverse.lookup name = some expression := by
  rw [List.lookup_eq_some_iff]
  constructor
  · rintro ⟨earlier, later, rfl, isLast⟩
    refine ⟨later.reverse, earlier.reverse, by simp, ?_⟩
    intro binding isLater
    exact bne_iff_ne.mpr (isLast binding (List.mem_reverse.mp isLater)).symm
  · rintro ⟨later, earlier, shape, isLast⟩
    refine ⟨earlier.reverse, later.reverse, ?_, ?_⟩
    · rw [List.reverse_eq_iff.mp shape]
      simp
    · intro binding isLater
      exact (bne_iff_ne.mp (isLast binding (List.mem_reverse.mp isLater))).symm

section Building

variable
  {parse : String → Except FormulaError Expression}
  {rows columns : UInt64}
  {filler : Expression}
  {builtIns : List (String × Expression)}

/-- Whatever is built is new. -/
theorem isNew_of_buildWith
    {sheet : Sheet}
    (built : buildWith parse rows columns filler builtIns = .ok sheet) :
    IsNew parse rows columns filler (IsLastBinding builtIns) sheet := by
  obtain ⟨-, blank⟩ := eq_blank_of_build_eq_ok built
  refine ⟨?_, ?_, ?_, ?_, ?_, ?_⟩
  · rw [blank]
  · rw [blank]
    rfl
  · rw [blank]
    rfl
  · rw [blank]
    rfl
  · intro cell isWritten
    simp [IsWritten, expressionAt?_of_build_eq_ok built] at isWritten
  · intro name expression
    rw [getElem?_builtIns_of_buildWith built, isLastBinding_iff_lookup_reverse]

/-- What is asked of a new sheet leaves no choice. -/
theorem IsNew.unique
    {binds : String → Expression → Prop}
    {first second : Sheet}
    (firstNew : IsNew parse rows columns filler binds first)
    (secondNew : IsNew parse rows columns filler binds second) :
    first = second := by
  have cells : first.cells = second.cells := by
    refine Std.ExtTreeMap.ext_getElem? fun cell => ?_
    have firstUnwritten : first.expressionAt? cell = none := by
      simpa [IsWritten] using firstNew.not_isWritten cell
    have secondUnwritten : second.expressionAt? cell = none := by
      simpa [IsWritten] using secondNew.not_isWritten cell
    exact firstUnwritten.trans secondUnwritten.symm
  have builtIns : first.builtIns = second.builtIns := by
    refine Std.ExtTreeMap.ext_getElem? fun name => Option.ext fun expression => ?_
    rw [firstNew.builtIn_iff, secondNew.builtIn_iff]
  have grid : first.toGrid = second.toGrid := by
    have rows := firstNew.rows_eq.trans secondNew.rows_eq.symm
    have columns := firstNew.columns_eq.trans secondNew.columns_eq.symm
    have filler := firstNew.filler_eq.trans secondNew.filler_eq.symm
    exact Grid.mk.injEq .. |>.mpr ⟨rows, columns, filler, cells⟩
  have parse := firstNew.parse_eq.trans secondNew.parse_eq.symm
  exact Sheet.mk.injEq .. |>.mpr ⟨grid, builtIns, parse⟩

theorem buildWith_of_tooManyColumns
    (tooMany : 26 < columns.toNat) :
    buildWith parse rows columns filler builtIns = .error (.tooManyColumns columns) := by
  simp [buildWith, columnLimit, tooMany]

/-- Unless there are too many columns, a sheet is built if its built-ins are accepted. -/
theorem buildWith_eq_map
    (fits : columns.toNat ≤ 26) :
    buildWith parse rows columns filler builtIns =
      (builtIns.foldlM addBuiltIn ∅).map fun context =>
        { Grid.blank rows columns filler with builtIns := context, parse := parse } := by
  simp only [buildWith, columnLimit, Nat.not_lt.mpr fits, if_false]
  rfl

/-- A sheet with few enough columns and no refused name is built. -/
theorem exists_buildWith_eq_ok
    (fits : columns.toNat ≤ 26)
    (noneFirst : ∀ name, ¬ IsFirstRefused builtIns name) :
    ∃ sheet, buildWith parse rows columns filler builtIns = .ok sheet := by
  obtain ⟨context, adds⟩ := exists_foldlM_addBuiltIn_eq_ok_iff.mpr noneFirst
  rw [buildWith_eq_map fits, adds]
  exact ⟨_, rfl⟩

/-- Building a sheet does what is to become of it, and nothing else. -/
theorem buildWith_eq_iff_buildsTo
    {outcome : Except SheetError Sheet} :
    buildWith parse rows columns filler builtIns = outcome ↔
      BuildsTo parse rows columns filler
        (IsFirstRefused builtIns) (IsLastBinding builtIns) outcome := by
  constructor
  · rintro rfl
    by_cases fits : columns.toNat ≤ 26
    · cases adds : builtIns.foldlM addBuiltIn ∅ with
      | error cause =>
          obtain ⟨name, isFirst, refusedFor⟩ := foldlM_addBuiltIn_eq_error_iff.mp adds
          rw [buildWith_eq_map fits, adds]
          exact .refused fits isFirst refusedFor
      | ok context =>
          have noneFirst := exists_foldlM_addBuiltIn_eq_ok_iff.mp ⟨context, adds⟩
          obtain ⟨sheet, built⟩ := exists_buildWith_eq_ok fits noneFirst
          rw [built]
          exact .built fits noneFirst (isNew_of_buildWith built)
    · have tooMany := Nat.lt_of_not_le fits
      rw [buildWith_of_tooManyColumns tooMany]
      exact .tooManyColumns tooMany
  · intro buildsTo
    cases buildsTo with
    | tooManyColumns tooMany =>
        exact buildWith_of_tooManyColumns tooMany
    | refused fits isFirst refusedFor =>
        rw [buildWith_eq_map fits, foldlM_addBuiltIn_eq_error_iff.mpr ⟨_, isFirst, refusedFor⟩]
        rfl
    | built fits noneFirst isNew =>
        obtain ⟨sheet, built⟩ := exists_buildWith_eq_ok fits noneFirst
        rw [built, (isNew_of_buildWith built).unique isNew]

end Building

/-! ## The built-ins of a configuration -/

/-- Every name comes before all later ones in the order of their bytes. -/
def IsOrdered (builtIns : List (String × Expression)) : Prop :=
  builtIns.Pairwise fun earlier later => Text.bytes earlier.1 < Text.bytes later.1

/-- If the names are ordered, the refused name that is first is the least one. -/
theorem IsOrdered.isFirstRefused_iff
    {builtIns : List (String × Expression)}
    (ordered : IsOrdered builtIns)
    {name : String} :
    IsFirstRefused builtIns name ↔
      (∃ expression, (name, expression) ∈ builtIns) ∧
        IsRefused name ∧
        ∀ binding ∈ builtIns, IsRefused binding.1 →
          binding.1 = name ∨ Text.bytes name < Text.bytes binding.1 := by
  constructor
  · rintro ⟨earlier, expression, later, rfl, usable, refused⟩
    obtain ⟨-, laterOrdered, -⟩ := List.pairwise_append.mp ordered
    refine ⟨⟨expression, List.mem_append_cons_self⟩, refused, ?_⟩
    intro binding given bindingRefused
    rcases List.mem_append.mp given with isEarlier | isRest
    · exact absurd bindingRefused (usable binding isEarlier)
    · rcases List.mem_cons.mp isRest with rfl | isLater
      · exact Or.inl rfl
      · exact Or.inr (List.rel_of_pairwise_cons laterOrdered isLater)
  · rintro ⟨⟨expression, given⟩, refused, least⟩
    obtain ⟨earlier, later, rfl⟩ := List.append_of_mem given
    obtain ⟨-, -, earlierBefore⟩ := List.pairwise_append.mp ordered
    refine ⟨earlier, expression, later, rfl, ?_, refused⟩
    intro binding isEarlier bindingRefused
    have before : Text.bytes binding.1 < Text.bytes name :=
      earlierBefore binding isEarlier (name, expression) (List.mem_cons_self ..)
    rcases least binding (List.mem_append_left _ isEarlier) bindingRefused with same | after
    · rw [same] at before
      exact List.lt_irrefl _ before
    · exact List.lt_asymm before after

/-- If the names are ordered, each of them has one binding only. -/
theorem IsOrdered.isLastBinding_iff
    {builtIns : List (String × Expression)}
    (ordered : IsOrdered builtIns)
    {name : String}
    {expression : Expression} :
    IsLastBinding builtIns name expression ↔ (name, expression) ∈ builtIns := by
  constructor
  · rintro ⟨earlier, later, rfl, -⟩
    exact List.mem_append_cons_self
  · intro given
    obtain ⟨earlier, later, rfl⟩ := List.append_of_mem given
    obtain ⟨-, laterOrdered, -⟩ := List.pairwise_append.mp ordered
    refine ⟨earlier, later, rfl, ?_⟩
    intro binding isLater same
    have before : Text.bytes name < Text.bytes binding.1 :=
      List.rel_of_pairwise_cons laterOrdered isLater
    rw [same] at before
    exact List.lt_irrefl _ before

end Sheet

namespace Config

/-- Of the configured names that are refused this one is the least in the order of their bytes. -/
def IsLeastRefused
    (config : Config)
    (name : String) : Prop :=
  name ∈ config.builtIns ∧
    Sheet.IsRefused name ∧
    ∀ other ∈ config.builtIns, Sheet.IsRefused other →
      other = name ∨ Text.bytes name < Text.bytes other

/-- The configured name is bound to its number. -/
def Binds
    (config : Config)
    (name : String)
    (expression : Expression) : Prop :=
  ∃ value, config.builtIns[name]? = some value ∧ expression = .constant value

variable {config : Config}

/-- The built-ins of a configuration are its names with their numbers. -/
theorem mem_bindings_iff
    {name : String}
    {expression : Expression} :
    (name, expression) ∈ config.bindings ↔ config.Binds name expression := by
  constructor
  · intro given
    obtain ⟨⟨name, value⟩, isConfigured, rfl, rfl⟩ := List.mem_map.mp given
    exact ⟨value, Std.ExtTreeMap.mem_toList_iff_getElem?_eq_some.mp isConfigured, rfl⟩
  · rintro ⟨value, isConfigured, rfl⟩
    exact List.mem_map.mpr
      ⟨(name, value), Std.ExtTreeMap.mem_toList_iff_getElem?_eq_some.mpr isConfigured, rfl⟩

theorem exists_mem_bindings_iff
    {name : String} :
    (∃ expression, (name, expression) ∈ config.bindings) ↔ name ∈ config.builtIns := by
  simp only [mem_bindings_iff, Binds, Std.ExtTreeMap.mem_iff_isSome_getElem?,
    Option.isSome_iff_exists]
  constructor
  · rintro ⟨_, value, isConfigured, -⟩
    exact ⟨value, isConfigured⟩
  · rintro ⟨value, isConfigured⟩
    exact ⟨.constant value, value, isConfigured, rfl⟩

/-- The built-ins of a configuration are in the order of their names. -/
theorem isOrdered_bindings :
    Sheet.IsOrdered config.bindings := by
  refine List.pairwise_map.mpr (Std.ExtTreeMap.ordered_keys_toList.imp ?_)
  intro earlier later before
  exact Text.bytes_lt_bytes (compareOfLessAndEq_eq_lt.mp before)

theorem isFirstRefused_bindings_eq :
    Sheet.IsFirstRefused config.bindings = config.IsLeastRefused := by
  funext name
  rw [eq_iff_iff, isOrdered_bindings.isFirstRefused_iff, exists_mem_bindings_iff]
  refine and_congr_right fun _ => and_congr_right fun _ => ?_
  simp only [Prod.forall, ← exists_mem_bindings_iff, forall_exists_index]

theorem isLastBinding_bindings_eq :
    Sheet.IsLastBinding config.bindings = config.Binds := by
  funext name expression
  rw [isOrdered_bindings.isLastBinding_iff, mem_bindings_iff]

end Config

namespace Sheet

/-- Only too many columns are refused as such. -/
theorem exists_buildWith_eq_tooManyColumns_iff
    {parse : String → Except FormulaError Expression}
    {rows columns : UInt64}
    {filler : Expression}
    {builtIns : List (String × Expression)} :
    (∃ count, buildWith parse rows columns filler builtIns = .error (.tooManyColumns count)) ↔
      26 < columns.toNat := by
  constructor
  · rintro ⟨count, refuses⟩
    cases buildWith_eq_iff_buildsTo.mp refuses with
    | tooManyColumns tooMany =>
        exact tooMany
    | refused _ _ refusedFor =>
        cases refusedFor
  · intro tooMany
    exact ⟨columns, buildWith_of_tooManyColumns tooMany⟩

/--
A sheet has too many columns exactly if it is to have more than 26. Otherwise the first name that is
empty, that is not alphanumeric, or that is an address is reported, with the reason that applies to
it; and if there is no such name, the sheet has no written cell and binds each name to its last
binding. Of the built-ins of a configuration the refused name with the least bytes is reported, and
if there is none, each configured name is bound to its number.
-/
theorem building_reports_first_refused_name :
    (∀ (parse : String → Except FormulaError Expression) (rows columns : UInt64)
      (filler : Expression) (builtIns : List (String × Expression)),
      ((∃ count, buildWith parse rows columns filler builtIns = .error (.tooManyColumns count)) ↔
        26 < columns.toNat) ∧
      ∀ outcome : Except SheetError Sheet,
        buildWith parse rows columns filler builtIns = outcome ↔
          BuildsTo parse rows columns filler
            (IsFirstRefused builtIns) (IsLastBinding builtIns) outcome) ∧
    ∀ (config : Config) (outcome : Except SheetError Sheet),
      config.buildSheet = outcome ↔
        BuildsTo Formula.parse config.rows config.columns .empty
          config.IsLeastRefused config.Binds outcome := by
  refine ⟨?_, ?_⟩
  · intro parse rows columns filler builtIns
    exact ⟨exists_buildWith_eq_tooManyColumns_iff, fun _ => buildWith_eq_iff_buildsTo⟩
  · intro config outcome
    rw [← Config.isFirstRefused_bindings_eq, ← Config.isLastBinding_bindings_eq]
    exact buildWith_eq_iff_buildsTo

example :
    let life : Std.ExtTreeMap String Int64 := (∅ : Std.ExtTreeMap String Int64).insert "my life" 42
    (Config.mk 5 5 (life.insert "C3" 1)).buildSheet = .error (.builtInIsAddress "C3") := by
  rfl

end Sheet

end Spreadsheet
