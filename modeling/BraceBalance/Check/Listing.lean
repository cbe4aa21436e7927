import BraceBalance.Console
import BraceBalance.Report.Text

/-!
# Reports on a console

One report is shown alone. Several are shown one after the other, each under its header
and with an empty line between, then the verdicts on those that are not clean, and last
how many are clean.
-/

namespace BraceBalance

namespace Listing

def renderUnderHeader (colors showTrace : Bool) (report : Report) : Text :=
  Console.header colors report.header ++ report.render showTrace

def renderTotal (colors : Bool) (reports : List Report) : Text :=
  let total := reports.length
  let clean := reports.countP Report.isClean
  if clean = total then Console.success colors (Text.ofNat clean ++ " file(s) balanced")
  else
    Console.warning colors
      (Text.ofNat (total - clean) ++ " of " ++ Text.ofNat total ++ " file(s) need attention")

def renderVerdicts (colors : Bool) (reports : List Report) : Text :=
  (reports.filter fun report => !report.isClean).flatMap (Console.verdict colors)

def render (colors showTrace : Bool) : List Report → Text
  | [] => Console.warning colors "No files to check"
  | [report] => report.render showTrace
  | reports =>
      Text.join "\n" (reports.map (renderUnderHeader colors showTrace)) ++ "\n"
        ++ renderVerdicts colors reports ++ renderTotal colors reports

end Listing

end BraceBalance
