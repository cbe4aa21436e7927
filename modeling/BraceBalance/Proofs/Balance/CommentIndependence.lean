import BraceBalance.Balance
import BraceBalance.Proofs.Comment.Stripping
import Mathlib.Data.List.Forall2

/-!
# Comments do not count

Of every line the scan counts what is left when the comment is stripped. The whole line is looked at
only to be shown in a trace. Two scans that read lines which are left the same therefore stay in step:
all they know is equal, but for the texts that their traces show.

For the heuristic detector this says that the text of a comment is without influence, whatever it
holds: the first marker of a line and the quotes before it are found without it. The marker may
overlap itself, so that its first occurrence has to be first in the text that ends with it.
-/

namespace BraceBalance

/-- The traces are equal but for the texts they show. -/
def TracedLine.SameButText (trace other : TracedLine) : Prop :=
  other = { trace with text := other.text }

instance (trace other : TracedLine) : Decidable (trace.SameButText other) :=
  inferInstanceAs (Decidable (_ = _))

namespace Progress

/-- Two scans know the same, but for the texts of traces. -/
structure InStep (progress other : Progress) : Prop where
  linesRead : progress.linesRead = other.linesRead
  balance : progress.balance = other.balance
  traces : List.Forall₂ TracedLine.SameButText progress.traces other.traces
  negativeLines : progress.negativeLines = other.negativeLines

theorem inStep_start : start.InStep start where
  linesRead := rfl
  balance := rfl
  traces := .nil
  negativeLines := rfl

variable {detector : CommentDetector}

/-- One line on each side keeps the scans in step if the same is left of both lines. -/
theorem InStep.readLine {progress other : Progress} (inStep : progress.InStep other)
    {line otherLine : Text} (left : detector.strip line = detector.strip otherLine) :
    (progress.readLine detector line).InStep (other.readLine detector otherLine) := by
  rcases inStep with ⟨linesRead, balance, traces, negativeLines⟩
  refine ⟨?_, ?_, ?_, ?_⟩
  · simp only [Progress.readLine, linesRead]
  · simp only [Progress.readLine, balance, left]
  · simp only [Progress.readLine, left]
    split
    · refine .cons ?_ traces
      simp only [TracedLine.SameButText, linesRead, balance]
    · exact traces
  · simp only [Progress.readLine, linesRead, balance, negativeLines, left]

/-- Scans that are in step stay so over all lines. -/
theorem InStep.foldl_readLine {progress other : Progress} (inStep : progress.InStep other)
    {lines otherLines : List Text}
    (left : List.Forall₂ (fun line otherLine => detector.strip line = detector.strip otherLine)
      lines otherLines) :
    (lines.foldl (Progress.readLine detector) progress).InStep
      (otherLines.foldl (Progress.readLine detector) other) := by
  induction left generalizing progress other with
  | nil => exact inStep
  | cons same _ ih => exact ih (inStep.readLine same)

end Progress

/-- A comment begins behind the text: the marker put there is the first one, and quote parity takes
it for real. -/
structure OpensComment (marker code : Text) : Prop where
  first : ∀ earlier < code.length, ¬marker <+: (code ++ marker).drop earlier
  outside : outsideQuotes code

/-- The lines are the same, or the same up to a comment that begins in both at one place. -/
inductive SameUpToComment (marker : Text) : Text → Text → Prop where
  | same (line : Text) : SameUpToComment marker line line
  | comment {code : Text} (opens : OpensComment marker code) (rest otherRest : Text) :
      SameUpToComment marker (code ++ marker ++ rest) (code ++ marker ++ otherRest)

namespace CommentDetector

variable {marker : Text}

/-- What stands behind a comment marker is stripped with it, whatever it is. -/
theorem strip_of_opensComment (nonempty : marker ≠ []) {code : Text}
    (opens : OpensComment marker code) (rest : Text) :
    (quoteParity marker).strip (code ++ marker ++ rest) = code := by
  have occurs : (code ++ marker).firstOccurrence? marker = some code.length := by
    rw [Text.firstOccurrence?_eq_some_iff nonempty, List.drop_left]
    exact ⟨List.prefix_refl marker, opens.first⟩
  rw [strip_append nonempty occurs, List.take_left, if_pos opens.outside]

theorem strip_eq_of_sameUpToComment (nonempty : marker ≠ []) {line other : Text}
    (same : SameUpToComment marker line other) :
    (quoteParity marker).strip line = (quoteParity marker).strip other := by
  cases same with
  | same => rfl
  | comment opens rest otherRest =>
      rw [strip_of_opensComment nonempty opens, strip_of_opensComment nonempty opens]

end CommentDetector

namespace Report

/-- The reports on two texts whose lines differ in comments only are equal, but for the texts that
traces show. -/
theorem ofText_of_sameUpToComment {marker : Text} (nonempty : marker ≠ []) {text other : Text}
    (same : List.Forall₂ (SameUpToComment marker) text.lines other.lines) :
    let report := ofText (.quoteParity marker) text
    let otherReport := ofText (.quoteParity marker) other
    report.linesScanned = otherReport.linesScanned ∧
      report.finalBalance = otherReport.finalBalance ∧
      report.negativeLines = otherReport.negativeLines ∧
      List.Forall₂ TracedLine.SameButText report.traces otherReport.traces := by
  intro report otherReport
  have left := same.imp fun _ _ same => CommentDetector.strip_eq_of_sameUpToComment nonempty same
  rcases Progress.inStep_start.foldl_readLine left with
    ⟨linesRead, balance, traces, negativeLines⟩
  refine ⟨linesRead, balance, ?_, ?_⟩
  · exact congrArg List.reverse negativeLines
  · exact List.rel_reverse traces

/-- A marker in a literal, which opens no comment, and comments that differ behind an escaped quote,
one of which makes the marker stand twice. -/
theorem ofText_of_sameUpToComment_overlapping :
    let text : Text := "u = \"http://x\"; \x7d\nf('\\'') \x7b/// \x7d\n\x7d"
    let other : Text := "u = \"http://x\"; \x7d\rf('\\'') \x7b// \x7b\x7b'\r\n\x7d"
    List.Forall₂ (SameUpToComment "//") text.lines other.lines ∧
      (ofText (.quoteParity "//") other).negativeLines = [1, 3] ∧
      (ofText (.quoteParity "//") text).negativeLines =
        (ofText (.quoteParity "//") other).negativeLines ∧
      List.Forall₂ TracedLine.SameButText (ofText (.quoteParity "//") text).traces
        (ofText (.quoteParity "//") other).traces := by
  intro text other
  have opens : OpensComment "//" "f('\\'') \x7b" := ⟨by decide, by decide⟩
  have lines : text.lines = ["u = \"http://x\"; \x7d", "f('\\'') \x7b/// \x7d", "\x7d"] := by decide
  have otherLines :
      other.lines = ["u = \"http://x\"; \x7d", "f('\\'') \x7b// \x7b\x7b'", "\x7d"] := by
    decide
  have same : List.Forall₂ (SameUpToComment "//") text.lines other.lines := by
    rw [lines, otherLines]
    exact .cons (.same _) (.cons (.comment opens "/ \x7d" " \x7b\x7b'") (.cons (.same _) .nil))
  have reports := ofText_of_sameUpToComment (by decide) same
  exact ⟨same, by decide, reports.2.2.1, reports.2.2.2⟩

end Report

end BraceBalance
