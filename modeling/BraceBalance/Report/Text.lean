import BraceBalance.Report.Basic

/-!
# Reports as text

A report is shown as its trace, one line for each traced line, then an empty line and a
summary: the final balance, what is missing, and where the balance was negative. Every
line of the rendering ends with a line feed.
-/

namespace BraceBalance

/-- A traced line with the balance before and after it. -/
def TracedLine.render (trace : TracedLine) : Text :=
  "Line " ++ Text.ofNat trace.line ++ ": '" ++ trace.text ++ "' -> +" ++ Text.ofNat trace.opens
    ++ " -" ++ Text.ofNat trace.closes ++ " (balance: " ++ Text.ofInt trace.before ++ " -> "
    ++ Text.ofInt trace.after ++ ")"

namespace Report

/-- The trace of a report, one line for each traced line. -/
def renderTrace (report : Report) : Text :=
  report.traces.flatMap fun trace => trace.render ++ "\n"

/-- The line that says what is missing, if something is. -/
def renderImbalance (report : Report) : Text :=
  match report.imbalance? with
  | some imbalance => "ERROR: Unmatched braces! " ++ imbalance.message ++ "\n"
  | none => []

/-- The line that lists where the balance was negative, if it was. -/
def renderNegativeLines (report : Report) : Text :=
  if report.wentNegative then
    "Lines where balance went negative: ["
      ++ Text.join ", " (report.negativeLines.map Text.ofNat) ++ "]\n"
  else []

def render (report : Report) (showTrace : Bool) : Text :=
  (if showTrace then report.renderTrace else [])
    ++ "\nFinal balance: " ++ Text.ofInt report.finalBalance ++ "\n"
    ++ report.renderImbalance ++ report.renderNegativeLines

def header (report : Report) : Text :=
  "==> " ++ report.displayName ++ " <=="

end Report

end BraceBalance
