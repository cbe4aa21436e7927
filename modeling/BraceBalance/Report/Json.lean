import BraceBalance.Json.Basic
import BraceBalance.Report.Basic

/-!
# Reports as JSON

Reports are written as an array of objects, whose members come in the order of the
fields of a report. A report whose path is no text cannot be written.
-/

namespace BraceBalance

def TracedLine.toJson (trace : TracedLine) : Json :=
  .object
    [("line", .number trace.line), ("text", .string trace.text),
      ("opens", .number trace.opens), ("closes", .number trace.closes),
      ("before", .number trace.before), ("after", .number trace.after)]

namespace Report

/-- The path of a report as a text, if it has one; nothing if the path is no text. -/
def pathText? (report : Report) : Option (Option Text) :=
  report.path.mapM Packed.text?

/-- A report as an object, with a text for its path; without a path it has `null` there. -/
def toJson (report : Report) (path : Option Text) : Json :=
  .object
    [("path", path.elim .null .string),
      ("lines_scanned", .number report.linesScanned),
      ("final_balance", .number report.finalBalance),
      ("traces", .array (report.traces.map TracedLine.toJson)),
      ("problematic_lines", .array (report.negativeLines.map fun (line : Nat) => .number line))]

def toJson? (report : Report) : Option Json :=
  report.pathText?.map report.toJson

/-- Reports as JSON, if all their paths are texts. -/
def renderJson? (reports : List Report) : Option Text :=
  (reports.mapM toJson?).map fun objects => (Json.array objects).render

end Report

end BraceBalance
