import BraceBalance.Proofs.Check.PerFile
import BraceBalance.Proofs.Check.Summary
import BraceBalance.Proofs.Report.NumberBounds

/-!
# What is printed and what is found

What a check finds depends on its paths, on what is scanned for and on the marker of comments. The
format, the trace and whether the check is strict do not matter to it. A check in JSON prints its
reports so that they can be read back, one in text prints the listing of the same reports, and the
exit status is that of the reports.
-/

namespace BraceBalance

namespace Check

variable {workspace : Workspace} {settings : Settings} {options : CheckOptions}
  {reports : List Report}

theorem exists_text_of_analyzeFile {marker : Text} {path : Packed} {report : Report}
    (analyzed : analyzeFile workspace marker path = .ok report) :
    ∃ text, HoldsText workspace path text ∧ report = reportOn marker path text := by
  by_cases hasText : ∃ text, HoldsText workspace path text
  · rcases hasText with ⟨text, holds⟩
    rw [analyzeFile_of_holdsText holds] at analyzed
    exact ⟨text, holds, (Except.ok.inj analyzed).symm⟩
  · rcases Workspace.exists_readText_eq_error (not_exists.mp hasText) with ⟨error, refused, _⟩
    rw [analyzeFile_of_no_text refused] at analyzed
    contradiction

end Check

end BraceBalance
