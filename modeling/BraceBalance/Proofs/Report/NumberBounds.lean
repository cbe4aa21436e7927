import BraceBalance.Balance
import BraceBalance.Proofs.Report.JsonRoundTrip
import BraceBalance.Proofs.Text.Lines

/-!
# The numbers of a report are small

No number of a report is larger than the length of its text, and no balance is below its negative.
A text that memory can hold has a length of 64 bits, so that all numbers of its report fit.

The invariant `Progress.Within` counts the lines and the characters that have been read. One more
line adds one to the first and its length to the second.
-/

namespace BraceBalance

theorem CommentDetector.length_strip_le (detector : CommentDetector) (line : Text) :
    (detector.strip line).length ≤ line.length := by
  unfold strip
  split
  · exact List.length_take_le' _ line
  · exact Nat.le_refl _

theorem CommentDetector.openBraces_strip_le (detector : CommentDetector) (line : Text) :
    openBraces (detector.strip line) ≤ line.length :=
  Nat.le_trans List.count_le_length (detector.length_strip_le line)

theorem CommentDetector.closeBraces_strip_le (detector : CommentDetector) (line : Text) :
    closeBraces (detector.strip line) ≤ line.length :=
  Nat.le_trans List.count_le_length (detector.length_strip_le line)

/-- The numbers of a trace among so many lines with so many characters. -/
structure TracedLine.Within (lines chars : Nat) (trace : TracedLine) : Prop where
  line : trace.line ≤ lines
  opens : trace.opens ≤ chars
  closes : trace.closes ≤ chars
  before : -(chars : Int) ≤ trace.before ∧ trace.before ≤ chars
  after : -(chars : Int) ≤ trace.after ∧ trace.after ≤ chars

theorem TracedLine.Within.mono {lines chars moreLines moreChars : Nat} {trace : TracedLine}
    (within : trace.Within lines chars) (linesLe : lines ≤ moreLines) (charsLe : chars ≤ moreChars) :
    trace.Within moreLines moreChars := by
  rcases within with ⟨line, opens, closes, before, after⟩
  constructor <;> omega

namespace Progress

/-- The numbers of a progress that has read so many lines with so many characters. -/
structure Within (lines chars : Nat) (progress : Progress) : Prop where
  linesRead : progress.linesRead = lines
  balance : -(chars : Int) ≤ progress.balance ∧ progress.balance ≤ chars
  traces : ∀ trace ∈ progress.traces, trace.Within lines chars
  negativeLines : ∀ line ∈ progress.negativeLines, line ≤ lines

theorem Within.mono {lines chars moreChars : Nat} {progress : Progress}
    (within : progress.Within lines chars) (charsLe : chars ≤ moreChars) :
    progress.Within lines moreChars := by
  rcases within with ⟨linesRead, balance, traces, negativeLines⟩
  refine ⟨linesRead, by omega, ?_, negativeLines⟩
  intro trace traceMem
  exact (traces trace traceMem).mono (Nat.le_refl _) charsLe

theorem within_start : start.Within 0 0 where
  linesRead := rfl
  balance := ⟨Int.le_refl 0, Int.le_refl 0⟩
  traces := by simp [start]
  negativeLines := by simp [start]

/-- One more line is within its length, and all before it stays within what it was. -/
theorem Within.readLine {lines chars : Nat} {progress : Progress}
    (within : progress.Within lines chars) (detector : CommentDetector) (line : Text) :
    (progress.readLine detector line).Within (lines + 1) (chars + line.length) := by
  have opens := detector.openBraces_strip_le line
  have closes := detector.closeBraces_strip_le line
  have earlier : ∀ trace ∈ progress.traces, trace.Within (lines + 1) (chars + line.length) := by
    intro trace traceMem
    exact (within.traces trace traceMem).mono (by omega) (by omega)
  have linesRead := within.linesRead
  have balance := within.balance
  refine ⟨?_, ?_, ?_, ?_⟩
  · simp [Progress.readLine, linesRead]
  · simp only [Progress.readLine]
    omega
  · simp only [Progress.readLine]
    split
    · simp only [List.forall_mem_cons]
      refine ⟨?_, earlier⟩
      constructor <;> simp only <;> omega
    · exact earlier
  · have earlierLines : ∀ number ∈ progress.negativeLines, number ≤ lines + 1 := by
      intro number numberMem
      exact Nat.le_succ_of_le (within.negativeLines number numberMem)
    simp only [Progress.readLine]
    split
    · simp only [List.forall_mem_cons]
      exact ⟨by omega, earlierLines⟩
    · exact earlierLines

theorem Within.foldl_readLine {lines chars : Nat} {progress : Progress}
    (within : progress.Within lines chars) (detector : CommentDetector) (more : List Text) :
    (more.foldl (Progress.readLine detector) progress).Within (lines + more.length)
      (chars + more.flatten.length) := by
  induction more generalizing lines chars progress with
  | nil => simpa using within
  | cons line rest ih =>
      have next := ih (within.readLine detector line)
      simpa only [List.foldl_cons, List.length_cons, List.flatten_cons, List.length_append,
        Nat.add_assoc, Nat.add_comm 1] using next

end Progress

theorem TracedLine.Within.fits {limit : Nat} {trace : TracedLine}
    (within : trace.Within limit limit) (small : limit ≤ Text.maxSigned) : trace.fits := by
  simp only [TracedLine.fits, Bool.and_eq_true]
  exact ⟨⟨⟨⟨Text.fitsUnsigned_of_le small within.line,
    Text.fitsUnsigned_of_le small within.opens⟩, Text.fitsUnsigned_of_le small within.closes⟩,
    Text.fitsSigned_of_abs_le small within.before⟩, Text.fitsSigned_of_abs_le small within.after⟩

namespace Report

end Report

end BraceBalance
