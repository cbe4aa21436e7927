import BraceBalance.Report.Basic

/-!
# The summary of a check

A check counts the reports that are not balanced and those that went negative; a report
may be both. Only a strict check fails, and only if one of the counts is not zero.
-/

namespace BraceBalance

structure CheckSummary where
  files : Nat
  /-- The files that are not balanced at their end. -/
  unbalanced : Nat
  /-- The files whose balance was negative after some line. -/
  wentNegative : Nat
  /-- The check fails if not all files are clean. -/
  strict : Bool
deriving DecidableEq

namespace CheckSummary

def ofReports (reports : List Report) (strict : Bool) : CheckSummary where
  files := reports.length
  unbalanced := reports.countP fun report => !report.isBalanced
  wentNegative := reports.countP Report.wentNegative
  strict

def allClean (summary : CheckSummary) : Bool :=
  summary.unbalanced = 0 && summary.wentNegative = 0

def fails (summary : CheckSummary) : Bool :=
  summary.strict && !summary.allClean

end CheckSummary

end BraceBalance
