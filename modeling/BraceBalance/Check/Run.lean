import BraceBalance.Balance
import BraceBalance.Check.Listing
import BraceBalance.Check.Summary
import BraceBalance.Printing
import BraceBalance.Report.Json
import BraceBalance.Scan

/-!
# Checks

A check scans its paths for files and reports on each of them, on its own and in the order
of the files. If one of them cannot be read, the check has no reports at all. It prints
when it has all its reports. As text they can always be printed, and as JSON only if all
their paths are texts; a check that cannot print them stops.
-/

namespace BraceBalance

/-- What the caller of a check asks for, beside its settings. -/
structure CheckOptions where
  paths : List Packed
  /-- A format that replaces that of the settings. -/
  format : Option OutputFormat
  /-- Text reports have no trace, whatever the settings say. -/
  noTrace : Bool
  /-- The check is strict, whatever the settings say. -/
  strict : Bool

namespace Check

open Printing (print orStop)

def analyzeFile (workspace : Workspace) (marker : Text) (path : Packed) :
    Except Fault Report := do
  let text ← (workspace.readText path).mapError (.file path)
  return { Report.ofText (.quoteParity marker) text with path := some path }

def analyzePaths (workspace : Workspace) (settings : Settings) (paths : List Packed) :
    Except Fault (List Report) := do
  let filter ← settings.scan.filter.mapError .invalidSettings
  let files ← Scan.collect workspace filter paths
  files.mapM (analyzeFile workspace settings.analysis.commentMarker)

def printReports (format : OutputFormat) (colors showTrace : Bool) (reports : List Report) :
    Printing Unit :=
  match format with
  | .json =>
      match Report.renderJson? reports with
      | some text => print (text ++ "\n")
      | none => throw .pathNotText
  | .text => print (Listing.render colors showTrace reports)

def run (workspace : Workspace) (settings : Settings) (options : CheckOptions)
    (colors : Bool) : Printing CheckSummary := do
  let reports ← orStop (analyzePaths workspace settings options.paths)
  let format := options.format.getD settings.output.format
  let showTrace := settings.output.trace && !options.noTrace
  let strict := options.strict || settings.check.failOnImbalance
  printReports format colors showTrace reports
  return CheckSummary.ofReports reports strict

end Check

end BraceBalance
