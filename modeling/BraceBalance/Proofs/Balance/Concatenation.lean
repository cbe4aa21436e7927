import BraceBalance.Proofs.Balance.PrefixSums
import BraceBalance.Proofs.Text.Lines

/-!
# Reports on texts that are put together

If two texts meet at the end of a line, the report on both together is made of their two
reports. The traces of the right text are moved behind the lines of the left one and begin
with its balance. The lines with a negative balance are not moved in this way: whether the
balance is negative after a line of the right text depends on the balance that the left one
ends with, so that they are chosen anew among all lines of the right text.
-/

namespace BraceBalance

attribute [ext] Report

/-- The trace of a line behind so many more lines, which leave the balance. -/
def TracedLine.shift (lines : Nat) (balance : Int) (trace : TracedLine) : TracedLine :=
  { trace with
    line := lines + trace.line
    before := balance + trace.before
    after := balance + trace.after }

namespace CommentDetector

variable (detector : CommentDetector) (left right : List Text)

theorem balanceAfter_append_add (count : Nat) :
    detector.balanceAfter (left ++ right) (left.length + count) =
      detector.balanceAfter left left.length + detector.balanceAfter right count := by
  simp only [balanceAfter, List.take_length_add_append, List.take_length, List.map_append,
    List.sum_append]

theorem traceOf_append_add (index : Nat) (line : Text) :
    detector.traceOf (left ++ right) (left.length + index) line =
      (detector.traceOf right index line).shift left.length
        (detector.balanceAfter left left.length) := by
  simp only [traceOf, TracedLine.shift, Nat.add_assoc, detector.balanceAfter_append_add]

theorem tracesOf_append :
    detector.tracesOf (left ++ right) =
      detector.tracesOf left ++
        (detector.tracesOf right).map
          (TracedLine.shift left.length (detector.balanceAfter left left.length)) := by
  simp only [tracesOf, List.zipIdx_append, List.filter_append, List.map_append]
  congr 1
  · apply List.map_congr_left
    intro entry entryMem
    have indexed := List.mem_zipIdx (List.mem_of_mem_filter entryMem)
    exact detector.traceOf_append (by omega) right entry.1
  · rw [Nat.zero_add, List.zipIdx_eq_map_add, List.filter_map, List.map_map, List.map_map]
    apply List.map_congr_left
    intro entry _
    exact detector.traceOf_append_add left right entry.2 entry.1

/-- The numbers of the lines after which the sum is negative, if it is counted from a balance
that earlier lines leave. -/
def negativeLinesFrom (balance : Int) (lines : List Text) : List Nat :=
  (List.range' 1 lines.length).filter fun number =>
    balance + detector.balanceAfter lines number < 0

theorem negativeLinesOf_append :
    detector.negativeLinesOf (left ++ right) =
      detector.negativeLinesOf left ++
        (detector.negativeLinesFrom (detector.balanceAfter left left.length) right).map
          (left.length + ·) := by
  have numbers :
      List.range' 1 (left ++ right).length =
        List.range' 1 left.length ++ (List.range' 1 right.length).map (left.length + ·) := by
    rw [List.map_add_range', List.length_append, Nat.add_comm left.length 1, List.range'_append_1]
  rw [negativeLinesOf, numbers, List.filter_append]
  congr 1
  · apply List.filter_congr
    intro number numberMem
    have bounds := List.mem_range'_1.mp numberMem
    rw [detector.balanceAfter_append (by omega)]
  · rw [List.filter_map, negativeLinesFrom]
    congr 1
    apply List.filter_congr
    intro number _
    simp only [Function.comp_apply, detector.balanceAfter_append_add]

end CommentDetector

namespace Report

/-- The report on two texts that meet at the end of a line, for every detector. -/
theorem ofText_append (detector : CommentDetector) {left right : Text}
    (apart : left.MeetAtLineEnd right) :
    let first := ofText detector left
    let second := ofText detector right
    ofText detector (left ++ right) =
      { path := none
        linesScanned := first.linesScanned + second.linesScanned
        finalBalance := first.finalBalance + second.finalBalance
        traces :=
          first.traces ++
            second.traces.map (TracedLine.shift first.linesScanned first.finalBalance)
        negativeLines :=
          first.negativeLines ++
            (detector.negativeLinesFrom first.finalBalance right.lines).map
              (first.linesScanned + ·) } := by
  intro first second
  have lines := Text.lines_append apart
  apply Report.ext
  · rfl
  · simp only [first, second, linesScanned_ofText, lines, List.length_append]
  · simp only [first, second, finalBalance_ofText, lines, List.length_append,
      detector.balanceAfter_append_add]
  · simp only [first, second, traces_ofText, linesScanned_ofText, finalBalance_ofText, lines,
      detector.tracesOf_append]
  · simp only [first, negativeLines_ofText, linesScanned_ofText, finalBalance_ofText, lines,
      detector.negativeLinesOf_append]

/-- A text that ends with a carriage return and leaves a closing brace too many. The right text
alone is negative after its last line only, behind the left one after three of its four. -/
theorem ofText_append_afterCarriageReturn :
    let left : Text := "f(); // \x7b\n\x7d\r"
    let right : Text := "x\r\n\x7b\r\x7d // \x7b\n\x7d"
    left.MeetAtLineEnd right ∧
      (ofText (.quoteParity "//") right).negativeLines = [4] ∧
      ofText (.quoteParity "//") (left ++ right) =
        { path := none
          linesScanned := 6
          finalBalance := -2
          traces :=
            [{ line := 2, text := "\x7d", opens := 0, closes := 1, before := 0, after := -1 },
              { line := 4, text := "\x7b", opens := 1, closes := 0, before := -1, after := 0 },
              { line := 5, text := "\x7d // \x7b", opens := 0, closes := 1, before := 0, after := -1 },
              { line := 6, text := "\x7d", opens := 0, closes := 1, before := -1, after := -2 }]
          negativeLines := [2, 3, 5, 6] } := by
  intro left right
  have apart : left.MeetAtLineEnd right := Or.inr (Or.inr ⟨rfl, by decide⟩)
  refine ⟨apart, by decide, ?_⟩
  rw [ofText_append _ apart]
  decide

end Report

end BraceBalance
