import Spreadsheet.CommandLine.Run
import Spreadsheet.Config.Loading
import Mathlib

namespace Spreadsheet

/-!
# Loading is all or nothing

A configuration that is loaded has all the settings that a file gives, and then there is no warning,
or it is the default one, and then there is a single warning. Nothing else can happen, whatever the
system answers about the path and whatever function reads the settings of a text. Command lines load
their configuration in this way.
-/

namespace Loading

/-- A file that gives no setting. -/
def noSettings : Settings :=
  ⟨none, none, none⟩

/--
The settings at a path. A file that is not too large has those that are read from its text, and where
nothing stands there are none, if none are asked for.
-/
inductive GivesAt
    (read : SettingsReader)
    (isAskedFor : Bool)
    (answers : PathAnswers) :
    Settings → Prop where
  | missing :
      answers.isThere = false →
      isAskedFor = false →
      GivesAt read isAskedFor answers noSettings
  | file {size : Nat} {text : String} {settings : Settings} :
      answers.isThere = true →
      answers.size = .ok size →
      size ≤ Config.sizeLimit →
      answers.text = .ok text →
      read text = .ok settings →
      GivesAt read isAskedFor answers settings

/-- The settings at the path that is asked for, or else at that of the user; without a path, none. -/
inductive Gives
    (read : SettingsReader)
    (askedFor ofUser : Option String)
    (ask : String → PathAnswers) :
    Settings → Prop where
  | noPath :
      askedFor.or ofUser = none →
      Gives read askedFor ofUser ask noSettings
  | path {path : String} {settings : Settings} :
      askedFor.or ofUser = some path →
      GivesAt read askedFor.isSome (ask path) settings →
      Gives read askedFor ofUser ask settings

/-- One warning has been added, and the configuration is as it was. -/
def OnlyWarns (before after : Loading) : Prop :=
  ∃ warning, after = ⟨before.config, before.warnings ++ [warning]⟩

theorem onlyWarns_warn
    (path : String)
    (warning : ConfigWarning)
    (loading : Loading) :
    OnlyWarns loading ((warn path warning).run loading).2 :=
  ⟨_, rfl⟩

section File

variable
  {read : SettingsReader}
  {isAskedFor : Bool}
  {answers : PathAnswers}

/-- Where something stands, the settings are read from the text of a file that is not too large. -/
theorem givesAt_iff_of_isThere
    (isThere : answers.isThere = true)
    {settings : Settings} :
    GivesAt read isAskedFor answers settings ↔
      ∃ size text,
        answers.size = .ok size ∧ size ≤ Config.sizeLimit ∧
          answers.text = .ok text ∧ read text = .ok settings := by
  constructor
  · intro gives
    cases gives with
    | missing notThere _ =>
        simp [isThere] at notThere
    | file _ isSize fits isText reads =>
        exact ⟨_, _, isSize, fits, isText, reads⟩
  · rintro ⟨size, text, isSize, fits, isText, reads⟩
    exact .file isThere isSize fits isText reads

/-- Where nothing stands, there are no settings, and it is wrong to have asked for some. -/
theorem givesAt_iff_of_not_isThere
    (notThere : answers.isThere = false)
    {settings : Settings} :
    GivesAt read isAskedFor answers settings ↔
      isAskedFor = false ∧ settings = noSettings := by
  constructor
  · intro gives
    cases gives with
    | missing _ notAskedFor =>
        exact ⟨notAskedFor, rfl⟩
    | file isThere =>
        simp [notThere] at isThere
  · rintro ⟨notAskedFor, rfl⟩
    exact .missing notThere notAskedFor

/-- There is one set of settings at a path, if any. -/
theorem GivesAt.unique
    {first second : Settings}
    (isFirst : GivesAt read isAskedFor answers first)
    (isSecond : GivesAt read isAskedFor answers second) :
    first = second := by
  cases isThere : answers.isThere with
  | false =>
      rw [givesAt_iff_of_not_isThere isThere] at isFirst isSecond
      exact isFirst.2.trans isSecond.2.symm
  | true =>
      rw [givesAt_iff_of_isThere isThere] at isFirst isSecond
      obtain ⟨_, text, -, -, isText, reads⟩ := isFirst
      obtain ⟨_, other, -, -, isOther, otherReads⟩ := isSecond
      obtain rfl := Except.ok.inj (isText.symm.trans isOther)
      exact Except.ok.inj (reads.symm.trans otherReads)

/-- The steps for a file put the settings that it gives into the configuration, or add a warning. -/
theorem loadFile_cases
    (path : String)
    (loading : Loading) :
    (∃ settings,
      GivesAt read isAskedFor answers settings ∧
        ((loadFile read isAskedFor path answers).run loading).2 =
          ⟨loading.config.apply settings, loading.warnings⟩) ∨
      (∀ settings, ¬ GivesAt read isAskedFor answers settings) ∧
        OnlyWarns loading ((loadFile read isAskedFor path answers).run loading).2 := by
  cases isThere : answers.isThere with
  | false =>
      simp only [givesAt_iff_of_not_isThere isThere, loadFile, isThere, if_false,
        Bool.false_eq_true]
      cases isAskedFor with
      | false =>
          exact Or.inl ⟨noSettings, ⟨rfl, rfl⟩, rfl⟩
      | true =>
          exact Or.inr ⟨by simp, onlyWarns_warn ..⟩
  | true =>
      simp only [givesAt_iff_of_isThere isThere, loadFile, isThere, if_true]
      cases answers.size with
      | error cause =>
          exact Or.inr ⟨by simp, onlyWarns_warn ..⟩
      | ok size =>
          by_cases tooLarge : Config.sizeLimit < size
          · simp only [tooLarge, if_true]
            exact Or.inr ⟨by simp [Nat.not_le.mpr tooLarge], onlyWarns_warn ..⟩
          · simp only [tooLarge, if_false]
            cases answers.text with
            | error cause =>
                exact Or.inr ⟨by simp, onlyWarns_warn ..⟩
            | ok text =>
                cases reads : read text with
                | error reason =>
                    simp only [reads]
                    exact Or.inr ⟨by simp [reads], onlyWarns_warn ..⟩
                | ok settings =>
                    simp only [reads]
                    exact Or.inl
                      ⟨settings, ⟨size, text, rfl, Nat.not_lt.mp tooLarge, rfl, reads⟩, rfl⟩

end File

section Load

variable
  {read : SettingsReader}
  {askedFor ofUser : Option String}
  {ask : String → PathAnswers}

theorem gives_iff_of_path
    {path : String}
    (isPath : askedFor.or ofUser = some path)
    {settings : Settings} :
    Gives read askedFor ofUser ask settings ↔
      GivesAt read askedFor.isSome (ask path) settings := by
  constructor
  · intro gives
    cases gives with
    | noPath noPath =>
        simp [isPath] at noPath
    | path isOther givesAt =>
        obtain rfl := Option.some.inj (isPath.symm.trans isOther)
        exact givesAt
  · exact .path isPath

theorem gives_iff_of_no_path
    (noPath : askedFor.or ofUser = none)
    {settings : Settings} :
    Gives read askedFor ofUser ask settings ↔ settings = noSettings := by
  constructor
  · intro gives
    cases gives with
    | noPath _ =>
        rfl
    | path isPath _ =>
        simp [noPath] at isPath
  · rintro rfl
    exact .noPath noPath

theorem Gives.unique
    {first second : Settings}
    (isFirst : Gives read askedFor ofUser ask first)
    (isSecond : Gives read askedFor ofUser ask second) :
    first = second := by
  cases isPath : askedFor.or ofUser with
  | none =>
      rw [gives_iff_of_no_path isPath] at isFirst isSecond
      exact isFirst.trans isSecond.symm
  | some path =>
      rw [gives_iff_of_path isPath] at isFirst isSecond
      exact isFirst.unique isSecond

theorem load_of_path
    {path : String}
    (isPath : askedFor.or ofUser = some path) :
    load read askedFor ofUser ask =
      ((loadFile read askedFor.isSome path (ask path)).run start).2 := by
  simp only [load, isPath]

/-- Where nothing stands at the path, there is a warning exactly if the path is asked for. -/
theorem warnings_load_of_not_isThere
    {path : String}
    (isPath : askedFor.or ofUser = some path)
    (notThere : (ask path).isThere = false) :
    (load read askedFor ofUser ask).warnings =
      if askedFor.isSome then ["Config file not found: " ++ path] else [] := by
  rw [load_of_path isPath, loadFile, if_neg (by simp [notThere])]
  cases askedFor.isSome <;> rfl

/-- Loading ends with the settings that there are and no warning, or with one warning alone. -/
theorem load_cases
    (read : SettingsReader)
    (askedFor ofUser : Option String)
    (ask : String → PathAnswers) :
    (∃ settings,
      Gives read askedFor ofUser ask settings ∧
        load read askedFor ofUser ask = ⟨Config.default.apply settings, []⟩) ∨
      (∀ settings, ¬ Gives read askedFor ofUser ask settings) ∧
        ∃ warning, load read askedFor ofUser ask = ⟨Config.default, [warning]⟩ := by
  cases isPath : askedFor.or ofUser with
  | none =>
      refine Or.inl ⟨noSettings, .noPath isPath, ?_⟩
      simp only [load, isPath]
      rfl
  | some path =>
      simp only [gives_iff_of_path isPath, load_of_path isPath]
      exact loadFile_cases path start

/-- What the steps load for an entry of the file system is the configuration for the entry. -/
theorem loadFile_answers
    (isAskedFor : Bool)
    (path : String)
    (entry : FileEntry) :
    ((loadFile read isAskedFor path entry.answers).run start).2 =
      ⟨(Config.loadWith read isAskedFor entry).1,
        ((Config.loadWith read isAskedFor entry).2.map (·.message path)).toList⟩ := by
  unfold loadFile Config.loadWith FileEntry.answers
  cases entry.size? with
  | none =>
      cases isAskedFor <;> rfl
  | some size =>
      simp only [Option.isSome_some, if_true]
      by_cases tooLarge : Config.sizeLimit < size
      · simp only [tooLarge, if_true]
        rfl
      · simp only [tooLarge, if_false]
        cases entry.text with
        | error cause =>
            rfl
        | ok text =>
            cases reads : read text <;> simp only [reads] <;> rfl

end Load

/-- The configuration of a command line is loaded in these steps. -/
theorem options_config_eq
    (options : CommandLine.Options)
    (surroundings : CommandLine.Surroundings) :
    let loaded :=
      load surroundings.readSettings options.settingsFile surroundings.userSettings
        fun path => (surroundings.entry path).answers
    options.config surroundings = (loaded.config, loaded.warnings.map ("Warning: " ++ ·)) := by
  intro loaded
  simp only [loaded, CommandLine.Options.config]
  cases isPath : options.settingsFile.or surroundings.userSettings with
  | none =>
      simp only [load, isPath]
      rfl
  | some path =>
      rw [load_of_path isPath, loadFile_answers]
      simp only [Option.toList_map, List.map_map]
      rfl

/--
Loading ends with at most one warning. With a warning, the configuration is the default one. There is
no warning exactly if there are settings at the path, or no path; then rows, columns and built-ins are
each those of the settings, or the default ones where the settings have none. Where nothing stands at
the path, the only warning is that a file that is asked for is missing. The configuration of a
command line is loaded in this way.
-/
theorem loading_is_all_or_nothing :
    (∀ (read : SettingsReader) (askedFor ofUser : Option String)
      (ask : String → PathAnswers),
      let loaded := load read askedFor ofUser ask
      loaded.warnings.length ≤ 1 ∧
      (loaded.warnings ≠ [] → loaded.config = Config.default) ∧
      (loaded.warnings = [] ↔ ∃ settings, Gives read askedFor ofUser ask settings) ∧
      (∀ settings, Gives read askedFor ofUser ask settings →
        loaded.config.rows = settings.rows.getD Config.default.rows ∧
        loaded.config.columns = settings.columns.getD Config.default.columns ∧
        loaded.config.builtIns = settings.builtIns.getD Config.default.builtIns) ∧
      (∀ path, askedFor.or ofUser = some path → (ask path).isThere = false →
        loaded.warnings =
          if askedFor.isSome then ["Config file not found: " ++ path] else [])) ∧
    ∀ (options : CommandLine.Options) (surroundings : CommandLine.Surroundings),
      let loaded :=
        load surroundings.readSettings options.settingsFile surroundings.userSettings
          fun path => (surroundings.entry path).answers
      options.config surroundings = (loaded.config, loaded.warnings.map ("Warning: " ++ ·)) := by
  refine ⟨?_, options_config_eq⟩
  intro read askedFor ofUser ask loaded
  have missing :
      ∀ path, askedFor.or ofUser = some path → (ask path).isThere = false →
        loaded.warnings =
          if askedFor.isSome then ["Config file not found: " ++ path] else [] :=
    fun _ isPath notThere => warnings_load_of_not_isThere isPath notThere
  rcases load_cases read askedFor ofUser ask with
    ⟨settings, gives, loads⟩ | ⟨nothing, warning, warns⟩
  · have isLoaded : loaded = ⟨Config.default.apply settings, []⟩ := loads
    refine ⟨?_, ?_, ?_, ?_, missing⟩
    · simp [isLoaded]
    · simp [isLoaded]
    · simp only [isLoaded, true_iff]
      exact ⟨settings, gives⟩
    · intro other givesOther
      obtain rfl := gives.unique givesOther
      rw [isLoaded]
      exact ⟨rfl, rfl, rfl⟩
  · have isLoaded : loaded = ⟨Config.default, [warning]⟩ := warns
    refine ⟨?_, ?_, ?_, ?_, missing⟩
    · simp [isLoaded]
    · simp [isLoaded]
    · simp [isLoaded, nothing]
    · intro settings gives
      exact absurd gives (nothing settings)

/-- A file with rows and an empty table of built-ins, and then the same path without a file. -/
theorem loading_replaces_builtIns :
    let text := "[sheet]\nrows = 5\n[built_ins]\n"
    let ask : String → PathAnswers := fun _ => (FileEntry.file text.toUTF8).answers
    let loaded := load Settings.read (some "sheet.toml") none ask
    let unanswered : String → PathAnswers := fun _ => (FileEntry.absent .notFound).answers
    let missed := load Settings.read (some "sheet.toml") none unanswered
    (∃ settings,
      Gives Settings.read (some "sheet.toml") none ask settings ∧
        loaded.warnings = [] ∧ loaded.config.rows = 5 ∧ loaded.config.columns = 10 ∧
        loaded.config.builtIns = ∅) ∧
    (unanswered "sheet.toml").isThere = false ∧
      missed.warnings = ["Config file not found: sheet.toml"] ∧
      missed.config = Config.default := by
  intro text ask loaded unanswered missed
  have reads : Settings.read text = .ok ⟨some 5, none, some ∅⟩ := by
    cbv
  have isText : (ask "sheet.toml").text = .ok text := by
    cbv
  have gives : Gives Settings.read (some "sheet.toml") none ask ⟨some 5, none, some ∅⟩ :=
    .path rfl (.file rfl rfl (by decide) isText reads)
  refine ⟨?_, rfl, ?_⟩
  · obtain ⟨-, -, noWarning_iff, takes, -⟩ :=
      loading_is_all_or_nothing.left Settings.read (some "sheet.toml") none ask
    obtain ⟨isRows, isColumns, areBuiltIns⟩ := takes _ gives
    exact ⟨_, gives, noWarning_iff.mpr ⟨_, gives⟩, isRows, isColumns, areBuiltIns⟩
  · obtain ⟨-, isDefault, -, -, missing⟩ :=
      loading_is_all_or_nothing.left Settings.read (some "sheet.toml") none unanswered
    have warns : missed.warnings = ["Config file not found: sheet.toml"] :=
      missing "sheet.toml" rfl rfl
    have hasWarning : missed.warnings ≠ [] := by
      rw [warns]
      exact List.cons_ne_nil _ _
    exact ⟨warns, isDefault hasWarning⟩

end Loading

end Spreadsheet
