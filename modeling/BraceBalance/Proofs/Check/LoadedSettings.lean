import BraceBalance.Proofs.Check.PerFile

/-!
# Checks with loaded settings

Loaded settings have exclude patterns that can be read, so a check with them stops for a file only,
or for a path that is no text and that it is to write as JSON.
-/

namespace BraceBalance

namespace Check

theorem isFileError_of_collect {workspace : Workspace} {filter : ScanFilter} {paths : List Packed}
    {fault : Fault} (fails : Scan.collect workspace filter paths = .error fault) :
    fault.isFileError := by
  rw [Scan.collect, Outcome.bind_eq_error_iff] at fails
  rcases fails with fails | ⟨_, _, impossible⟩
  · rcases Outcome.exists_first_error fails with ⟨_, root, _, _, _, noRoot⟩
    unfold Scan.pathsOfRoot at noRoot
    split at noRoot
    · split at noRoot <;> cases noRoot
    · cases noRoot
    · cases noRoot
      rfl
  · cases impossible

theorem isFileError_of_analyzeFile {workspace : Workspace} {marker : Text} {path : Packed}
    {fault : Fault} (fails : analyzeFile workspace marker path = .error fault) : fault.isFileError := by
  rw [analyzeFile, Outcome.bind_eq_error_iff] at fails
  rcases fails with fails | ⟨_, _, impossible⟩
  · rcases Outcome.mapError_eq_error_iff.mp fails with ⟨error, _, rfl⟩
    rfl
  · cases impossible

/-- A check whose exclude patterns can be read stops for a file, or for a path that it cannot write
as JSON. -/
theorem stops_of_onConsole_run {workspace : Workspace} {settings : Settings} {filter : ScanFilter}
    (isFilter : settings.scan.filter = .ok filter) {options : CheckOptions} {colors : Bool}
    {fault : Fault} {output : Text}
    (fails : (run workspace settings options colors).onConsole = (.error fault, output)) :
    fault.isFileError ∨
      fault = .pathNotText ∧ ∃ reports,
        analyzePaths workspace settings options.paths = .ok reports ∧
          ¬IsPrintable settings options reports := by
  cases analyzed : analyzePaths workspace settings options.paths with
  | error found =>
      left
      rw [onConsole_run_of_error analyzed] at fails
      cases fails
      rw [analyzePaths_of_filter isFilter] at analyzed
      rcases Outcome.bind_eq_error_iff.mp analyzed with analyzed | ⟨files, _, analyzed⟩
      · exact isFileError_of_collect analyzed
      · rcases Outcome.exists_first_error analyzed with ⟨_, file, _, _, _, analyzed⟩
        exact isFileError_of_analyzeFile analyzed
  | ok reports =>
      right
      rw [onConsole_run analyzed] at fails
      cases rendered : rendering? settings options colors reports with
      | some shown =>
          rw [rendered] at fails
          cases fails
      | none =>
          rw [rendered] at fails
          cases fails
          exact ⟨rfl, reports, rfl, rendering?_eq_none_iff.mp rendered⟩

/-- What a check can stop for with settings whose exclude patterns can be read: a file, or a path
that its format cannot show. -/
structure StopsForFiles (place : Workspace) (settings : Settings) (options : CheckOptions)
    (colors : Bool) : Prop where
  hasFilter : ∃ filter, settings.scan.filter = .ok filter
  fileOrPath : ∀ fault output, (run place settings options colors).onConsole = (.error fault, output) →
    fault.isFileError ∨ fault = .pathNotText
  onlyFiles_iff :
    (∀ fault output, (run place settings options colors).onConsole = (.error fault, output) →
      fault.isFileError) ↔
      ∀ reports, analyzePaths place settings options.paths = .ok reports →
        IsPrintable settings options reports

theorem stopsForFiles_of_filter {place : Workspace} {settings : Settings} {filter : ScanFilter}
    (isFilter : settings.scan.filter = .ok filter) (options : CheckOptions) (colors : Bool) :
    StopsForFiles place settings options colors := by
  refine ⟨⟨filter, isFilter⟩, ?_, ?_, ?_⟩
  · intro fault output fails
    exact (stops_of_onConsole_run isFilter fails).imp_right And.left
  · intro onlyFiles reports analyzed
    by_contra unprintable
    cases onlyFiles _ _ ((stops_of_not_isPrintable analyzed unprintable).fails colors)
  · intro printable fault output fails
    rcases stops_of_onConsole_run isFilter fails with isFileError | ⟨-, reports, analyzed, not⟩
    · exact isFileError
    · exact absurd (printable reports analyzed) not

/-- Loaded settings are usable, and a check with them never stops for the settings: it stops for a
file, or for a path that its format cannot show, and for files only if there is no such path. For
any settings the scan and validation find the same exclude pattern at fault. -/
theorem stops_for_files_of_loads (workspace : Workspace) (settings : Settings) :
    (Settings.Loads workspace settings → settings.IsUsable ∧
      ∀ place options colors, StopsForFiles place settings options colors) ∧
    ((∃ fault, settings.scan.filter = .error fault) ↔
      ∃ pattern ∈ settings.scan.exclude, ¬Glob.IsReadable pattern) ∧
    (∀ fault, settings.scan.filter = .error fault ↔ settings.scan.FirstUnreadable fault) ∧
    (settings.HasMarkerAndSize → ∀ fault,
      settings.validate = .error fault ↔ settings.scan.filter = .error fault) := by
  refine ⟨?_, ScanSettings.exists_filter_eq_error_iff,
    fun fault => ScanSettings.filter_eq_error_iff, ?_⟩
  · intro loads
    have usable := loads.isUsable
    rcases ScanSettings.exists_filter usable.readable with ⟨filter, isFilter⟩
    exact ⟨usable, fun place => stopsForFiles_of_filter isFilter⟩
  · intro checked fault
    rw [Settings.validate_eq_error_iff checked, ScanSettings.filter_eq_error_iff]

/-- Built-in settings, with two exclude patterns that cannot be read. -/
def unreadableExclude : Settings :=
  { Settings.default with
    scan := { Settings.default.scan with exclude := ["**/a/**", "[b", "c***"] } }

/-- An empty file whose name is no UTF-8. -/
def brokenName : Workspace where
  tree := ⟨[([[0xFF, 0x2E, 0x72, 0x73]], .plain .empty)]⟩
  directory := []
  environment := []

def brokenReports : List Report := [reportOn "//" [0xFF, 0x2E, 0x72, 0x73] []]

theorem analyzePaths_brokenName :
    analyzePaths brokenName Settings.default [[0xFF, 0x2E, 0x72, 0x73]] = .ok brokenReports := by
  cbv

theorem load_brokenName : Settings.load brokenName = .ok Settings.default :=
  Settings.load_of_no_layers (by cbv) rfl

theorem not_isPrintable_brokenReports :
    ¬IsPrintable Settings.default ⟨[[0xFF, 0x2E, 0x72, 0x73]], some .json, false, false⟩
      brokenReports := by
  intro printable
  exact absurd (printable rfl _ List.mem_cons_self) (by decide)

/-- The built-in settings are loaded where there are no layers. A check with them stops at a path
that leads nowhere, and in JSON at a path that is no text, which is the fault of no file. Of two
patterns that cannot be read the first is at fault. -/
theorem stops_for_files_of_loads_nowhere :
    let broken : CheckOptions := ⟨[[0xFF, 0x2E, 0x72, 0x73]], some .json, false, false⟩
    let fault := SettingsFault.excludePattern "[b" ⟨0, .brackets⟩
    Settings.Loads brokenName Settings.default ∧ Settings.default.IsUsable ∧
      (∃ fault, (run brokenName Settings.default ⟨["a"], none, false, false⟩ false).onConsole =
        (.error fault, []) ∧ fault.isFileError = true) ∧
      ((run brokenName Settings.default broken false).onConsole = (.error .pathNotText, []) ∧
        Fault.pathNotText.isFileError = false) ∧
      unreadableExclude.validate = .error fault ∧ unreadableExclude.scan.filter = .error fault := by
  intro broken fault
  have loads : Settings.Loads brokenName Settings.default := .layers load_brokenName
  rcases (stops_for_files_of_loads brokenName Settings.default).1 loads with ⟨usable, stops⟩
  have nowhere : analyzePaths brokenName Settings.default ["a"] =
      .error (.file "a" .missingRoot) := by cbv
  have fails : (run brokenName Settings.default ⟨["a"], none, false, false⟩ false).onConsole =
      (.error (.file "a" .missingRoot), []) := onConsole_run_of_error nowhere false
  have noReports : ∀ reports, analyzePaths brokenName Settings.default ["a"] = .ok reports →
      IsPrintable Settings.default ⟨["a"], none, false, false⟩ reports := by
    intro reports analyzed
    cases nowhere.symm.trans analyzed
  have isFileError := (stops brokenName _ false).onlyFiles_iff.mpr noReports _ _ fails
  have unprinted : Stops brokenName Settings.default broken .pathNotText :=
    stops_of_not_isPrintable analyzePaths_brokenName not_isPrintable_brokenReports
  have checked : unreadableExclude.HasMarkerAndSize :=
    ⟨by decide, by decide, by decide, by decide⟩
  have invalid : unreadableExclude.validate = .error fault := by cbv
  have same := (stops_for_files_of_loads brokenName unreadableExclude).2.2.2
  exact ⟨loads, usable, ⟨_, fails, isFileError⟩, ⟨unprinted.fails false, rfl⟩, invalid,
    (same checked fault).mp invalid⟩

theorem makes_brokenName (format : Option OutputFormat) {arguments : List Packed}
    (parsed : Command.parseArguments brokenName arguments =
      .ok ⟨none, .check ⟨[[0xFF, 0x2E, 0x72, 0x73]], format, false, false⟩⟩) :
    Makes brokenName arguments Settings.default ⟨[[0xFF, 0x2E, 0x72, 0x73]], format, false, false⟩ :=
  .invocation parsed rfl load_brokenName

/-- With loaded settings a check in JSON stops for no file, where one in text succeeds. -/
theorem stops_for_no_file_brokenName :
    Settings.load brokenName = .ok Settings.default ∧
      Command.run brokenName false ["check", [0xFF, 0x2E, 0x72, 0x73]] =
        ⟨0, "\nFinal balance: 0\n", none, brokenName⟩ ∧
      Command.run brokenName false ["check", "-fjson", [0xFF, 0x2E, 0x72, 0x73]] =
        ⟨1, [], some .pathNotText, brokenName⟩ ∧
      Fault.pathNotText.isFileError = false := by
  refine ⟨load_brokenName, ?_, ?_, rfl⟩
  · rw [command_run_of_makes (makes_brokenName none rfl), onConsole_run analyzePaths_brokenName]
    rfl
  · exact (stops_of_not_isPrintable analyzePaths_brokenName not_isPrintable_brokenReports).ends
      false _ (makes_brokenName (some .json) rfl)

end Check

end BraceBalance
