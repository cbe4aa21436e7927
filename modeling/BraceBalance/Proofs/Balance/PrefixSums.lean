import BraceBalance.Balance
import Mathlib.Algebra.BigOperators.Group.List.Basic
import Mathlib.Algebra.Ring.Int.Defs

/-!
# Reports as prefix sums

The scan of a text carries four accumulators from line to line: the number of lines, the
balance, the traced lines and the lines with a negative balance. This file says what they
amount to without a scan. The balance after some lines is the sum of what each of them
contributes on its own, and both lists are selections from the lines of the text in their
order, made by looking at one line and at the two sums around it.

The invariant `Progress.Records` ties the accumulators to the lines read so far. One more
line preserves it, whatever the detector, and so does every run of the scan from any
progress that has it.
-/

namespace BraceBalance

namespace CommentDetector

variable (detector : CommentDetector)

/-- Opened less closed braces of the part of a line that counts. -/
def lineBalance (line : Text) : Int :=
  openBraces (detector.strip line) - closeBraces (detector.strip line)

/-- The sum of what the first `count` lines contribute. -/
def balanceAfter (lines : List Text) (count : Nat) : Int :=
  ((lines.take count).map detector.lineBalance).sum

/-- The part of a line that counts holds a brace. -/
def countsBrace (line : Text) : Bool :=
  (detector.strip line).contains '{' || (detector.strip line).contains '}'

/-- The trace of a line that stands behind `index` others. -/
def traceOf (lines : List Text) (index : Nat) (line : Text) : TracedLine where
  line := index + 1
  text := line.trimForDisplay
  opens := openBraces (detector.strip line)
  closes := closeBraces (detector.strip line)
  before := detector.balanceAfter lines index
  after := detector.balanceAfter lines (index + 1)

/-- The traces of the lines that count a brace, in the order of the lines. -/
def tracesOf (lines : List Text) : List TracedLine :=
  (lines.zipIdx.filter fun entry => detector.countsBrace entry.1).map fun entry =>
    detector.traceOf lines entry.2 entry.1

/-- The numbers of the lines after which the sum is negative, in increasing order. -/
def negativeLinesOf (lines : List Text) : List Nat :=
  (List.range' 1 lines.length).filter fun number => detector.balanceAfter lines number < 0

theorem countsBrace_iff (line : Text) :
    detector.countsBrace line ↔
      openBraces (detector.strip line) > 0 ∨ closeBraces (detector.strip line) > 0 := by
  simp only [countsBrace, openBraces, closeBraces, Bool.or_eq_true, List.contains_iff_mem,
    gt_iff_lt, List.count_pos_iff]

/-- Lines behind the first `count` do not change the sum of those. -/
theorem balanceAfter_append {lines : List Text} {count : Nat} (within : count ≤ lines.length)
    (more : List Text) :
    detector.balanceAfter (lines ++ more) count = detector.balanceAfter lines count := by
  simp only [balanceAfter, List.take_append_of_le_length within]

theorem balanceAfter_append_singleton (lines : List Text) (line : Text) :
    detector.balanceAfter (lines ++ [line]) (lines.length + 1) =
      detector.balanceAfter lines lines.length + detector.lineBalance line := by
  have whole : (lines ++ [line]).take (lines.length + 1) = lines ++ [line] :=
    List.take_of_length_le (by simp)
  simp only [balanceAfter, whole, List.take_length, List.map_append, List.sum_append,
    List.map_cons, List.map_nil, List.sum_singleton]

theorem traceOf_append {lines : List Text} {index : Nat} (within : index < lines.length)
    (more : List Text) (line : Text) :
    detector.traceOf (lines ++ more) index line = detector.traceOf lines index line := by
  simp only [traceOf, detector.balanceAfter_append (Nat.le_of_lt within),
    detector.balanceAfter_append (Nat.succ_le_of_lt within)]

theorem tracesOf_append_singleton (lines : List Text) (line : Text) :
    detector.tracesOf (lines ++ [line]) =
      detector.tracesOf lines ++
        if detector.countsBrace line then
          [detector.traceOf (lines ++ [line]) lines.length line] else [] := by
  have earlier :
      (lines.zipIdx.filter fun entry => detector.countsBrace entry.1).map
          (fun entry => detector.traceOf (lines ++ [line]) entry.2 entry.1) =
        detector.tracesOf lines := by
    apply List.map_congr_left
    intro entry entryMem
    have indexed := List.mem_zipIdx (List.mem_of_mem_filter entryMem)
    exact detector.traceOf_append (by omega) [line] entry.1
  rw [tracesOf, List.zipIdx_append, List.filter_append, List.map_append, earlier]
  congr 1
  by_cases counts : detector.countsBrace line
  · simp [counts]
  · simp [counts]

theorem negativeLinesOf_append_singleton (lines : List Text) (line : Text) :
    detector.negativeLinesOf (lines ++ [line]) =
      detector.negativeLinesOf lines ++
        if detector.balanceAfter (lines ++ [line]) (lines.length + 1) < 0 then
          [lines.length + 1] else [] := by
  have earlier :
      (List.range' 1 lines.length).filter
          (fun number => detector.balanceAfter (lines ++ [line]) number < 0) =
        detector.negativeLinesOf lines := by
    apply List.filter_congr
    intro number numberMem
    have bounds := List.mem_range'_1.mp numberMem
    rw [detector.balanceAfter_append (by omega)]
  rw [negativeLinesOf, List.length_append, List.length_singleton, List.range'_concat,
    List.filter_append, earlier, Nat.one_mul, Nat.add_comm 1]
  congr 1
  by_cases negative : detector.balanceAfter (lines ++ [line]) (lines.length + 1) < 0
  · simp [negative]
  · simp [negative]

end CommentDetector

namespace Progress

variable {detector : CommentDetector}

theorem traces_readLine_of_countsBrace (progress : Progress) {line : Text}
    (counts : detector.countsBrace line) :
    (progress.readLine detector line).traces =
      { line := progress.linesRead + 1, text := line.trimForDisplay
        opens := openBraces (detector.strip line), closes := closeBraces (detector.strip line)
        before := progress.balance, after := (progress.readLine detector line).balance }
          :: progress.traces := by
  simp only [readLine, if_pos (detector.countsBrace_iff line |>.mp counts)]

theorem readLine_of_not_countsBrace (progress : Progress) {line : Text}
    (countsNone : ¬detector.countsBrace line) :
    (progress.readLine detector line).traces = progress.traces ∧
      (progress.readLine detector line).balance = progress.balance := by
  rw [detector.countsBrace_iff] at countsNone
  simp only [readLine, if_neg countsNone, true_and]
  omega

/-- The progress is what reading the lines amounts to. -/
structure Records (detector : CommentDetector) (lines : List Text) (progress : Progress) :
    Prop where
  linesRead : progress.linesRead = lines.length
  balance : progress.balance = detector.balanceAfter lines lines.length
  traces : progress.traces.reverse = detector.tracesOf lines
  negativeLines : progress.negativeLines.reverse = detector.negativeLinesOf lines

theorem records_start (detector : CommentDetector) : start.Records detector [] where
  linesRead := rfl
  balance := rfl
  traces := rfl
  negativeLines := rfl

/-- One more line is recorded, whether it counts a brace or not. -/
theorem Records.readLine {lines : List Text} {progress : Progress}
    (records : progress.Records detector lines) (line : Text) :
    (progress.readLine detector line).Records detector (lines ++ [line]) := by
  have after :
      progress.balance + openBraces (detector.strip line) - closeBraces (detector.strip line) =
        detector.balanceAfter (lines ++ [line]) (lines.length + 1) := by
    rw [detector.balanceAfter_append_singleton, ← records.balance,
      CommentDetector.lineBalance]
    omega
  have before :
      detector.balanceAfter (lines ++ [line]) lines.length = progress.balance := by
    rw [detector.balanceAfter_append (Nat.le_refl _), records.balance]
  refine ⟨?_, ?_, ?_, ?_⟩
  · simp only [Progress.readLine, records.linesRead, List.length_append, List.length_singleton]
  · simp only [Progress.readLine, List.length_append, List.length_singleton]
    exact after
  · rw [detector.tracesOf_append_singleton, ← records.traces]
    simp only [Progress.readLine, ← detector.countsBrace_iff]
    split
    · simp only [List.reverse_cons, CommentDetector.traceOf, records.linesRead, after, before]
    · simp only [List.append_nil]
  · rw [detector.negativeLinesOf_append_singleton, ← records.negativeLines, ← after]
    simp only [Progress.readLine]
    split
    · simp only [List.reverse_cons, records.linesRead]
    · simp only [List.append_nil]

/-- A scan that goes on from recorded lines records all lines in the end. -/
theorem Records.foldl_readLine {lines : List Text} {progress : Progress}
    (records : progress.Records detector lines) (more : List Text) :
    (more.foldl (Progress.readLine detector) progress).Records detector (lines ++ more) := by
  induction more generalizing lines progress with
  | nil => simpa using records
  | cons line rest inductionHypothesis =>
      have next := inductionHypothesis (records.readLine line)
      simpa only [List.foldl_cons, List.append_assoc, List.singleton_append] using next

end Progress

namespace Report

variable (detector : CommentDetector) (text : Text)

theorem records_lines :
    (text.lines.foldl (Progress.readLine detector) Progress.start).Records detector text.lines :=
  (Progress.records_start detector).foldl_readLine text.lines

theorem linesScanned_ofText : (ofText detector text).linesScanned = text.lines.length :=
  (records_lines detector text).linesRead

theorem finalBalance_ofText :
    (ofText detector text).finalBalance = detector.balanceAfter text.lines text.lines.length :=
  (records_lines detector text).balance

theorem traces_ofText : (ofText detector text).traces = detector.tracesOf text.lines :=
  (records_lines detector text).traces

/-- A trace shows a line that counts a brace. -/
theorem exists_line_of_mem_traces {trace : TracedLine}
    (traceMem : trace ∈ (ofText detector text).traces) :
    ∃ line ∈ text.lines, detector.countsBrace line ∧ trace.text = line.trimForDisplay := by
  rw [traces_ofText, CommentDetector.tracesOf, List.mem_map] at traceMem
  rcases traceMem with ⟨⟨line, index⟩, entryMem, rfl⟩
  rcases List.mem_filter.mp entryMem with ⟨indexedMem, counts⟩
  exact ⟨line, List.fst_mem_of_mem_zipIdx indexedMem, counts, rfl⟩

theorem negativeLines_ofText :
    (ofText detector text).negativeLines = detector.negativeLinesOf text.lines :=
  (records_lines detector text).negativeLines

end Report

/-- The report on a text is read off the sums over the beginnings of its list of lines, for
every detector. -/
theorem Report.ofText_eq_prefixSums (detector : CommentDetector) (text : Text) :
    Report.ofText detector text =
      { path := none
        linesScanned := text.lines.length
        finalBalance := detector.balanceAfter text.lines text.lines.length
        traces := detector.tracesOf text.lines
        negativeLines := detector.negativeLinesOf text.lines } := by
  have records := (Progress.records_start detector).foldl_readLine text.lines
  rw [List.nil_append] at records
  simp only [Report.ofText, Progress.report, Report.mk.injEq, true_and]
  exact ⟨records.linesRead, records.balance, records.traces, records.negativeLines⟩

end BraceBalance
