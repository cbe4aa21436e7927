import BraceBalance.Proofs.Check.FormatIndependence
import BraceBalance.Proofs.Scan.DistinctFiles
import Mathlib.Data.List.Nodup

/-!
# What a check counts

A check counts the paths of its scan, and of the reports on them those that are not balanced and those
that went negative. A report is about what stands in a file, whatever path leads to it. So these are
numbers of files if the scan lists none of them twice, which it does only for the sake of a single dot
at the beginning of some of its paths.
-/

namespace BraceBalance

namespace Check

open Scan (LeadsToFile LeadApart TakesFile TakenBothWays)

/-- The report on the file at a place, if the file can be read and holds a text. -/
def reportAt? (workspace : Workspace) (marker : Text) (place : Location) : Option Report :=
  match workspace.tree.node? place with
  | some (.file body) =>
      (body.read.toOption.bind Text.ofBytes?).map (Report.ofText (.quoteParity marker))
  | _ => none

/-- The summary of a check that counts the files at some places. -/
def countFiles (workspace : Workspace) (settings : Settings) (options : CheckOptions)
    (places : List Location) : CheckSummary where
  files := places.length
  unbalanced := places.countP fun place =>
    (reportAt? workspace settings.analysis.commentMarker place).any fun report => !report.isBalanced
  wentNegative := places.countP fun place =>
    (reportAt? workspace settings.analysis.commentMarker place).any Report.wentNegative
  strict := isStrict settings options

variable {workspace : Workspace} {marker : Text} {filter : ScanFilter} {roots files : List Packed}

theorem exists_reportAt? {path : Packed} {place : Location} {report : Report}
    (leads : LeadsToFile workspace path place)
    (analyzed : analyzeFile workspace marker path = .ok report) :
    ∃ held, reportAt? workspace marker place = some held ∧
      report = { held with path := some path } := by
  rcases leads with ⟨body, found⟩
  rcases exists_text_of_analyzeFile analyzed with ⟨text, holds, rfl⟩
  have isRead : body.read = .ok text.toBytes :=
    (Workspace.readBytes_of_find? found).symm.trans (Workspace.fileContent?_eq_some_iff.mp holds)
  refine ⟨Report.ofText (.quoteParity marker) text, ?_, rfl⟩
  rw [reportAt?, FileTree.node?_of_find? found]
  simp only [isRead, Except.toOption, Option.bind_some, Text.ofBytes?_toBytes, Option.map_some]

/-- What is counted of reports is counted of the files that they are about. -/
theorem countP_reports {reports : List Report} {placeOf : Packed → Location} {counts : Report → Bool}
    (each : List.Forall₂ (fun file report => analyzeFile workspace marker file = .ok report)
      files reports)
    (leads : ∀ file ∈ files, LeadsToFile workspace file (placeOf file))
    (anyPath : ∀ report path, counts { report with path := path } = counts report) :
    reports.countP counts =
      (files.map placeOf).countP fun place => (reportAt? workspace marker place).any counts := by
  induction each with
  | nil => rfl
  | cons first _ ih =>
      rw [List.forall_mem_cons] at leads
      rcases exists_reportAt? leads.1 first with ⟨held, isHeld, rfl⟩
      rw [List.map_cons, List.countP_cons, List.countP_cons, ih leads.2, isHeld, anyPath,
        Option.any_some]

theorem summary_of_onConsole {settings : Settings} {options : CheckOptions} {colors : Bool}
    {summary : CheckSummary} {output : Text} {reports : List Report}
    (analyzed : analyzePaths workspace settings options.paths = .ok reports)
    (ran : (run workspace settings options colors).onConsole = (.ok summary, output)) :
    summary = CheckSummary.ofReports reports (isStrict settings options) := by
  rw [onConsole_run analyzed] at ran
  split at ran <;> cases ran
  rfl

theorem summary_eq_countFiles {settings : Settings} {options : CheckOptions} {colors : Bool}
    {summary : CheckSummary} {output : Text} {placeOf : Packed → Location}
    (isFilter : settings.scan.filter = .ok filter)
    (collected : Scan.collect workspace filter options.paths = .ok files)
    (leads : ∀ file ∈ files, LeadsToFile workspace file (placeOf file))
    (ran : (run workspace settings options colors).onConsole = (.ok summary, output)) :
    summary = countFiles workspace settings options (files.map placeOf) := by
  cases analyzed : analyzePaths workspace settings options.paths with
  | error fault =>
      rw [onConsole_run_of_error analyzed] at ran
      cases ran
  | ok reports =>
      rw [summary_of_onConsole analyzed ran]
      rw [analyzePaths_of_filter isFilter, collected] at analyzed
      have each := Outcome.mapM_eq_ok_iff.mp analyzed
      rw [CheckSummary.ofReports, countFiles, ← countP_reports each leads (fun _ _ => rfl),
        ← countP_reports each leads (fun _ _ => rfl), List.length_map, each.length_eq]

/-- Without links and with paths that go down, a scan lists no file twice but with and without a dot
at the beginning, and it lists none twice if and only if no file is taken both ways. Then a check
counts each file once that some path of it takes. -/
theorem countsFilesOnce_of_collect (isTree : workspace.tree.IsTree)
    (linkFree : workspace.tree.IsLinkFree) (descend : ∀ root ∈ roots, Path.Descends root)
    (collected : Scan.collect workspace filter roots = .ok files) :
    (∀ file ∈ files, ∃ place, LeadsToFile workspace file place) ∧
    (∀ left ∈ files, ∀ right ∈ files, ∀ place, LeadsToFile workspace left place →
      LeadsToFile workspace right place →
        left = right ∨ Path.isDotted left ≠ Path.isDotted right) ∧
    (files.Pairwise (LeadApart workspace) ↔ ¬TakenBothWays workspace filter roots) ∧
    (¬TakenBothWays workspace filter roots →
      ∃ places : List Location, List.Forall₂ (LeadsToFile workspace) files places ∧ places.Nodup ∧
        (∀ place, place ∈ places ↔ ∃ root ∈ roots, TakesFile workspace filter root place) ∧
        ∀ settings options colors summary output, settings.scan.filter = .ok filter →
          options.paths = roots →
          (run workspace settings options colors).onConsole = (.ok summary, output) →
          summary = countFiles workspace settings options places) := by
  have lists := Scan.listsFiles_of_collect isTree linkFree descend collected
  refine ⟨?_, ?_, lists.pairwise_leadApart_iff, ?_⟩
  · intro file fileMem
    exact ⟨_, lists.leads file fileMem⟩
  · intro left leftMem right rightMem place leftLeads rightLeads
    by_cases sameDot : Path.isDotted left = Path.isDotted right
    · exact Or.inl (lists.eq_of_leads leftMem rightMem leftLeads rightLeads sameDot)
    · exact Or.inr sameDot
  · intro notBothWays
    have apart := lists.pairwise_leadApart_iff.mpr notBothWays
    refine ⟨files.map fun file => workspace.directory ++ Path.names file, ?_, ?_, ?_, ?_⟩
    · rw [List.forall₂_map_right_iff, List.forall₂_same]
      exact lists.leads
    · rw [List.Nodup, List.pairwise_map]
      apply apart.imp_of_mem
      intro left right leftMem rightMem leadApart samePlace
      apply leadApart _ (lists.leads left leftMem)
      rw [samePlace]
      exact lists.leads right rightMem
    · intro place
      rw [List.mem_map]
      constructor
      · rintro ⟨file, fileMem, rfl⟩
        rcases lists.given file fileMem with ⟨root, rootMem, takes, _⟩
        exact ⟨root, rootMem, file, takes, lists.leads file fileMem⟩
      · rintro ⟨root, rootMem, takes⟩
        rcases lists.complete root rootMem place takes with ⟨file, fileMem, leads, _⟩
        exact ⟨file, fileMem, (leads.eq linkFree (lists.descends file fileMem)).symm⟩
    · rintro settings options colors summary output isFilter rfl ran
      exact summary_eq_countFiles isFilter collected lists.leads ran

/-- Two files, one of them in a directory below the other. -/
def nestedWorkspace : Workspace where
  tree := ⟨[(["s"], .directory), (["s", "b.c"], .plain ⟨#[125]⟩), (["s", "t"], .directory),
    (["s", "t", "a.c"], .plain ⟨#[123]⟩)]⟩
  directory := []
  environment := []

/-- Settings for small files of one extension. -/
def smallSettings : Settings :=
  { Settings.default with scan := ⟨["c"], [], 9⟩ }

def smallFilter : ScanFilter :=
  ⟨["c"], [], 9⟩

def pathOptions (paths : List Packed) : CheckOptions where
  paths := paths
  format := none
  noTrace := false
  strict := false

/-- Overlapping paths that all begin with a dot and are spelled in several ways. -/
def dottedRoots : List Packed :=
  ["./s//", "././s/t/a.c", ".//s/./t"]

theorem isSilent_nestedWorkspace (place : Location) :
    Ignore.IsSilent nestedWorkspace.tree place :=
  Ignore.isSilent_of_notMem (by decide) place

theorem pathsOfRoot_nestedDirectory :
    Scan.pathsOfRoot nestedWorkspace smallFilter "./s//" = .ok ["./s//b.c", "./s//t/a.c"] := by
  have found : nestedWorkspace.find? "./s//" = some ([("s" : Packed)], .directory) := by cbv
  have below : nestedWorkspace.tree.below ["s"] = [([("b.c" : Packed)], .plain ⟨#[125]⟩),
      ([("t" : Packed)], .directory), ([("t" : Packed), "a.c"], .plain ⟨#[123]⟩)] := by rfl
  have size : Scan.fileSize? nestedWorkspace (Path.appendNames "./s//" ["b.c"]) = some 1 := by cbv
  have noSize : Scan.fileSize? nestedWorkspace (Path.appendNames "./s//" ["t"]) = none := by cbv
  have innerSize :
      Scan.fileSize? nestedWorkspace (Path.appendNames "./s//" ["t", "a.c"]) = some 1 := by cbv
  rw [Scan.pathsOfRoot_of_find? found (by decide), Scan.filesBelow_of_silent isSilent_nestedWorkspace,
    below]
  simp only [List.filterMap_cons, size, noSize, innerSize]
  rfl

theorem pathsOfRoot_innerDirectory {root : Packed}
    (found : nestedWorkspace.find? root = some ([("s" : Packed), "t"], .directory))
    (notHyphen : Scan.isHyphen root = false)
    (size : Scan.fileSize? nestedWorkspace (Path.appendNames root ["a.c"]) = some 1) :
    Scan.pathsOfRoot nestedWorkspace smallFilter root = .ok [Path.appendNames root ["a.c"]] := by
  have below : nestedWorkspace.tree.below ["s", "t"] = [([("a.c" : Packed)], .plain ⟨#[123]⟩)] := by
    rfl
  rw [Scan.pathsOfRoot_of_find? found notHyphen, Scan.filesBelow_of_silent isSilent_nestedWorkspace,
    below]
  simp only [List.filterMap_cons, size]
  rfl

theorem collect_dottedRoots :
    Scan.collect nestedWorkspace smallFilter dottedRoots = .ok ["./s//b.c", "./s//t/a.c"] := by
  have ofFile : Scan.pathsOfRoot nestedWorkspace smallFilter "././s/t/a.c" = .ok ["././s/t/a.c"] := by
    cbv
  have ofInner := @pathsOfRoot_innerDirectory ".//s/./t" (by cbv) rfl (by cbv)
  rw [Scan.collect_eq_bind, dottedRoots, List.mapM_cons, pathsOfRoot_nestedDirectory, List.mapM_cons,
    ofFile, List.mapM_cons, ofInner]
  rfl

theorem filter_smallSettings : smallSettings.scan.filter = .ok smallFilter := by rfl

theorem exists_run_pathOptions {texts : List Text}
    (collected : Scan.collect nestedWorkspace smallFilter roots = .ok files)
    (each : List.Forall₂ (HoldsText nestedWorkspace) files texts) :
    ∃ output, (run nestedWorkspace smallSettings (pathOptions roots) false).onConsole =
      (.ok (CheckSummary.ofReports (files.zipWith (reportOn "//") texts) false), output) := by
  have analyzed : analyzePaths nestedWorkspace smallSettings (pathOptions roots).paths =
      .ok (files.zipWith (reportOn "//") texts) := by
    rw [analyzePaths_of_filter filter_smallSettings, pathOptions, collected]
    exact mapM_analyzeFile each _
  exact ⟨_, onConsole_run analyzed false⟩

/-- Several spellings of overlapping paths make two files, one of which went negative. -/
theorem countsFilesOnce_of_collect_dottedRoots :
    nestedWorkspace.tree.IsTree ∧ nestedWorkspace.tree.IsLinkFree ∧
      (∀ root ∈ dottedRoots, Path.Descends root) ∧
      Scan.collect nestedWorkspace smallFilter dottedRoots = .ok ["./s//b.c", "./s//t/a.c"] ∧
      ¬TakenBothWays nestedWorkspace smallFilter dottedRoots ∧
      ∃ places : List Location, places.Nodup ∧
        countFiles nestedWorkspace smallSettings (pathOptions dottedRoots) places =
          ⟨2, 2, 1, false⟩ ∧
        ∃ output, (run nestedWorkspace smallSettings (pathOptions dottedRoots) false).onConsole =
          (.ok (countFiles nestedWorkspace smallSettings (pathOptions dottedRoots) places),
            output) := by
  have isTree : nestedWorkspace.tree.IsTree := by decide
  have linkFree : nestedWorkspace.tree.IsLinkFree := by
    simp [FileTree.IsLinkFree, nestedWorkspace]
  have descend : ∀ root ∈ dottedRoots, Path.Descends root := by decide
  have allDotted : ∀ root ∈ dottedRoots, Path.isDotted root = true := by decide
  have notBothWays : ¬TakenBothWays nestedWorkspace smallFilter dottedRoots := by
    rintro ⟨_, _, _, plainMem, notDotted, _⟩
    rw [allDotted _ plainMem] at notDotted
    contradiction
  have each : List.Forall₂ (HoldsText nestedWorkspace) ["./s//b.c", "./s//t/a.c"] ["\x7d", "\x7b"] :=
    .cons (by cbv) (.cons (by cbv) .nil)
  rcases exists_run_pathOptions collect_dottedRoots each with ⟨output, ran⟩
  rcases countsFilesOnce_of_collect isTree linkFree descend collect_dottedRoots with
    ⟨_, _, _, counts⟩
  rcases counts notBothWays with ⟨places, _, nodup, _, counted⟩
  have summary := counted smallSettings (pathOptions dottedRoots) false _ output filter_smallSettings
    rfl ran
  refine ⟨isTree, linkFree, descend, collect_dottedRoots, notBothWays, places, nodup, ?_, output, ?_⟩
  · rw [← summary]
    decide
  · rw [← summary]
    exact ran

/-- A directory whose path begins with a dot, and a file below it whose path does not. -/
def mixedRoots : List Packed :=
  ["./s/t", "s/t/a.c"]

/-- One file is listed and counted twice. -/
theorem countsFileTwice_mixedRoots :
    nestedWorkspace.tree.IsTree ∧ nestedWorkspace.tree.IsLinkFree ∧
      (∀ root ∈ mixedRoots, Path.Descends root) ∧
      Scan.collect nestedWorkspace smallFilter mixedRoots = .ok ["./s/t/a.c", "s/t/a.c"] ∧
      LeadsToFile nestedWorkspace "./s/t/a.c" ["s", "t", "a.c"] ∧
      LeadsToFile nestedWorkspace "s/t/a.c" ["s", "t", "a.c"] ∧
      ∃ output, (run nestedWorkspace smallSettings (pathOptions mixedRoots) false).onConsole =
        (.ok ⟨2, 2, 0, false⟩, output) := by
  have isTree : nestedWorkspace.tree.IsTree := by decide
  have linkFree : nestedWorkspace.tree.IsLinkFree := by
    simp [FileTree.IsLinkFree, nestedWorkspace]
  have ofDirectory := @pathsOfRoot_innerDirectory "./s/t" (by cbv) rfl (by cbv)
  have ofFile : Scan.pathsOfRoot nestedWorkspace smallFilter "s/t/a.c" = .ok ["s/t/a.c"] := by cbv
  have collected : Scan.collect nestedWorkspace smallFilter mixedRoots =
      .ok ["./s/t/a.c", "s/t/a.c"] := by
    rw [Scan.collect_eq_bind, mixedRoots, List.mapM_cons, ofDirectory, List.mapM_cons, ofFile]
    rfl
  have each : List.Forall₂ (HoldsText nestedWorkspace) ["./s/t/a.c", "s/t/a.c"] ["\x7b", "\x7b"] :=
    .cons (by cbv) (.cons (by cbv) .nil)
  rcases exists_run_pathOptions collected each with ⟨output, ran⟩
  refine ⟨isTree, linkFree, by decide, collected,
    ⟨{ content := ⟨#[123]⟩ }, by cbv⟩, ⟨{ content := ⟨#[123]⟩ }, by cbv⟩, output, ?_⟩
  exact ran

end Check

end BraceBalance
