import BraceBalance.Command.Run
import BraceBalance.Proofs.FileTree.Reading
import BraceBalance.Proofs.Outcome
import BraceBalance.Proofs.Report.JsonRoundTrip
import BraceBalance.Proofs.Settings.Validation

/-!
# Checks are made file by file

A check has one report for each of its files, which depends on the content of this file alone,
or it stops without a report and without any output. It stops if its exclude patterns cannot be
read, if its files cannot be found, or at the first of them in order that holds no text. Braces
never stop it. It prints when it has all its reports, and then it can stop only for a path that
its format cannot show, again without any output.
-/

namespace BraceBalance

namespace Check

/-- The path leads to bytes that are the UTF-8 of the text. -/
def HoldsText (workspace : Workspace) (path : Packed) (text : Text) : Prop :=
  workspace.fileContent? path = some text.toBytes

/-- The report on a file that holds a text. -/
def reportOn (marker : Text) (path : Packed) (text : Text) : Report :=
  { Report.ofText (.quoteParity marker) text with path := some path }

/-- A check is strict by its options or by its settings. -/
def isStrict (settings : Settings) (options : CheckOptions) : Bool :=
  options.strict || settings.check.failOnImbalance

def formatOf (settings : Settings) (options : CheckOptions) : OutputFormat :=
  options.format.getD settings.output.format

def showsTrace (settings : Settings) (options : CheckOptions) : Bool :=
  settings.output.trace && !options.noTrace

/-- The format of the check can show the reports: as text they can always be shown, and as JSON
if their paths are texts. -/
def IsPrintable (settings : Settings) (options : CheckOptions) (reports : List Report) : Prop :=
  formatOf settings options = .json → ∀ report ∈ reports, report.pathText?.isSome

/-- What a check prints of its reports, if its format can show them. -/
def rendering? (settings : Settings) (options : CheckOptions) (colors : Bool)
    (reports : List Report) : Option Text :=
  match formatOf settings options with
  | .json => (Report.renderJson? reports).map (· ++ "\n")
  | .text => some (Listing.render colors (showsTrace settings options) reports)

/-- The command with these arguments makes the check. -/
inductive Makes (workspace : Workspace) (arguments : List Packed) (settings : Settings)
    (options : CheckOptions) : Prop where
  | invocation {invocation : Command.Invocation}
      (parsed : Command.parseArguments workspace arguments = .ok invocation)
      (isCheck : invocation.action = .check options)
      (isSettings : Command.settingsOf workspace invocation = .ok settings) :
      Makes workspace arguments settings options

/-- The check ends with a fault and prints nothing, and so does a command that makes it. -/
structure Stops (workspace : Workspace) (settings : Settings) (options : CheckOptions)
    (fault : Fault) : Prop where
  fails : ∀ colors, (run workspace settings options colors).onConsole = (.error fault, [])
  ends : ∀ colors arguments, Makes workspace arguments settings options →
    Command.run workspace colors arguments = ⟨fault.status, [], some fault, workspace⟩

variable {workspace : Workspace} {settings : Settings} {options : CheckOptions}
  {reports : List Report}

theorem rendering?_eq_none_iff {colors : Bool} :
    rendering? settings options colors reports = none ↔ ¬IsPrintable settings options reports := by
  unfold rendering? IsPrintable
  cases formatOf settings options with
  | text => simp
  | json => simp [Report.renderJson?_eq_none_iff]

/-! ## Runs of a check -/

theorem onConsole_run_of_error {fault : Fault}
    (stopped : analyzePaths workspace settings options.paths = .error fault) (colors : Bool) :
    (run workspace settings options colors).onConsole = (.error fault, []) :=
  Printing.onConsole_orStop_error_bind stopped _

/-- A check that has its reports prints them if it can, and otherwise it stops. -/
theorem onConsole_run (analyzed : analyzePaths workspace settings options.paths = .ok reports)
    (colors : Bool) :
    (run workspace settings options colors).onConsole =
      match rendering? settings options colors reports with
      | some output =>
          (.ok (CheckSummary.ofReports reports (isStrict settings options)), output)
      | none => (.error .pathNotText, []) := by
  rw [run, Printing.onConsole_orStop_ok_bind analyzed]
  simp only [printReports, rendering?, formatOf]
  cases options.format.getD settings.output.format with
  | text => rfl
  | json => cases Report.renderJson? reports <;> rfl

/-- A command that makes a check prints what the check prints, and its status is that of the
summary or of the fault. -/
theorem command_run_of_makes {arguments : List Packed}
    (makes : Makes workspace arguments settings options) (colors : Bool) :
    Command.run workspace colors arguments =
      match (run workspace settings options
          (colors || Command.colorsForced workspace)).onConsole with
      | (.ok summary, output) => ⟨if summary.fails then 1 else 0, output, none, workspace⟩
      | (.error fault, output) => ⟨fault.status, output, some fault, workspace⟩ := by
  rcases makes with ⟨parsed, isCheck, isSettings⟩
  simp only [Command.run, parsed, Command.perform, isCheck,
    Printing.onConsole_orStop_ok_bind isSettings, Printing.onConsole_bind_pure]
  rcases (run workspace settings options (colors || Command.colorsForced workspace)).onConsole with
    ⟨fault | summary, output⟩ <;> rfl

theorem stops_of_onConsole {fault : Fault}
    (fails : ∀ colors, (run workspace settings options colors).onConsole = (.error fault, [])) :
    Stops workspace settings options fault := by
  refine ⟨fails, ?_⟩
  intro colors arguments makes
  rw [command_run_of_makes makes, fails]

theorem stops_of_not_isPrintable
    (analyzed : analyzePaths workspace settings options.paths = .ok reports)
    (unprintable : ¬IsPrintable settings options reports) :
    Stops workspace settings options .pathNotText := by
  apply stops_of_onConsole
  intro colors
  rw [onConsole_run analyzed, rendering?_eq_none_iff.mpr unprintable]

theorem analyzeFile_of_holdsText {path : Packed} {text : Text}
    (holds : HoldsText workspace path text) (marker : Text) :
    analyzeFile workspace marker path = .ok (reportOn marker path text) := by
  rw [analyzeFile, Workspace.readText_of_fileContent? holds]
  rfl

theorem analyzeFile_of_no_text {path : Packed} {error : FileError}
    (refused : workspace.readText path = .error error) (marker : Text) :
    analyzeFile workspace marker path = .error (.file path error) := by
  rw [analyzeFile, refused]
  rfl

theorem mapM_analyzeFile {files : List Packed} {texts : List Text}
    (each : List.Forall₂ (HoldsText workspace) files texts) (marker : Text) :
    files.mapM (analyzeFile workspace marker) = .ok (files.zipWith (reportOn marker) texts) := by
  rw [Outcome.mapM_eq_ok_iff]
  induction each with
  | nil => exact .nil
  | cons first _ ih => exact .cons (analyzeFile_of_holdsText first marker) ih

theorem analyzePaths_of_filter {filter : ScanFilter}
    (isFilter : settings.scan.filter = .ok filter) (paths : List Packed) :
    analyzePaths workspace settings paths =
      (Scan.collect workspace filter paths).bind fun files =>
        files.mapM (analyzeFile workspace settings.analysis.commentMarker) := by
  rw [analyzePaths, isFilter]
  rfl

end Check

end BraceBalance
