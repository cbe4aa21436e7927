import BraceBalance.Check.Summary
import Mathlib.Algebra.Order.Group.Nat
import Mathlib.Data.List.Count
import Mathlib.Logic.Basic

/-!
# Flawed reports in a summary

A report is flawed if it is not balanced at its end or was negative on the way. A summary counts
the two faults apart, and a report may have both, so that its counts are no numbers of flawed
reports. They are both zero exactly if no report is flawed, and they bound how many reports are.
-/

namespace BraceBalance

namespace Report

/-- The text is not balanced at its end, or its balance was negative after some line. -/
def IsFlawed (report : Report) : Prop :=
  report.finalBalance ≠ 0 ∨ report.negativeLines ≠ []

theorem isFlawed_iff {report : Report} :
    report.IsFlawed ↔ report.isBalanced = false ∨ report.wentNegative = true := by
  simp [IsFlawed, isBalanced, wentNegative]

theorem isFlawed_iff_isClean {report : Report} : report.IsFlawed ↔ report.isClean = false := by
  cases balanced : report.isBalanced <;> cases negative : report.wentNegative <;>
    simp [isFlawed_iff, isClean, balanced, negative]

end Report

namespace CheckSummary

theorem allClean_ofReports_iff (reports : List Report) (strict : Bool) :
    (ofReports reports strict).allClean ↔ ∀ report ∈ reports, ¬report.IsFlawed := by
  simp only [allClean, ofReports, Bool.and_eq_true, decide_eq_true_eq, List.countP_eq_zero,
    Report.isFlawed_iff, not_or, Bool.not_eq_true, Bool.not_eq_false, Bool.not_eq_eq_eq_not,
    Bool.not_true, ← forall₂_and]

/-- Each count is a number of flawed reports, and together they count every flawed report. -/
theorem countP_isFlawed_bounds (reports : List Report) (strict : Bool) :
    let summary := ofReports reports strict
    max summary.unbalanced summary.wentNegative ≤ reports.countP (fun report => !report.isClean) ∧
      reports.countP (fun report => !report.isClean) ≤
        summary.unbalanced + summary.wentNegative := by
  simp only [ofReports]
  induction reports with
  | nil => simp
  | cons report reports ih =>
      have clean : report.isClean = (report.isBalanced && !report.wentNegative) := rfl
      simp only [List.countP_cons, clean]
      cases report.isBalanced <;> cases report.wentNegative <;> simp <;> omega

end CheckSummary

end BraceBalance
