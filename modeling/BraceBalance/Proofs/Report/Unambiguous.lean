import BraceBalance.Proofs.Balance.PrefixSums
import BraceBalance.Proofs.Text.Basic
import BraceBalance.Proofs.Text.Lines
import BraceBalance.Proofs.Text.Numeral
import BraceBalance.Report.Text

/-!
# Reading a report off its text

The text of a report shows its trace, its final balance and the lines where it was negative, and
all of this can be read off it. A traced line is put between quotes without escapes, and may hold
quotes, arrows and whole endings of other traces. It can be told apart nevertheless: what stands
behind it is read from the end, number by number, and no number holds the blank or sign that
stands before it.

A traced line holds no line feed, so that one line of the text is one trace. The empty line ends
the trace, and what follows the report begins with a line feed or is empty, which no line of the
summary does.
-/

namespace BraceBalance

/-- Every part of a traced line is read off its text, whatever the line holds. The numbers behind
the line are taken off from the end, the one in front of it from the beginning. -/
theorem TracedLine.render_injective : Function.Injective TracedLine.render := by
  intro trace other same
  unfold render at same
  have numeral (value : Int) : ∀ char ∈ Text.ofInt value, Text.isNumeralChar char :=
    fun _ charMem => Text.isNumeralChar_of_mem_ofInt charMem
  have digits (number : Nat) : ∀ char ∈ Text.ofNat number, char.isDigit :=
    fun _ digitMem => Text.isDigit_of_mem_ofNat digitMem
  have after := Text.append_run_inj (numeral _) (numeral _)
    (by simp [Text.StopsRun, Text.isNumeralChar]) (by simp [Text.StopsRun, Text.isNumeralChar])
    (List.append_cancel_right same)
  have before := Text.append_run_inj (numeral _) (numeral _)
    (by simp [Text.StopsRun, Text.isNumeralChar]) (by simp [Text.StopsRun, Text.isNumeralChar])
    (List.append_cancel_right after.1)
  have closes := Text.append_run_inj (digits _) (digits _) (by simp [Text.StopsRun])
    (by simp [Text.StopsRun]) (List.append_cancel_right before.1)
  have opens := Text.append_run_inj (digits _) (digits _) (by simp [Text.StopsRun])
    (by simp [Text.StopsRun]) (List.append_cancel_right closes.1)
  have upToLine := List.append_cancel_right opens.1
  simp only [List.append_assoc] at upToLine
  have number := Text.run_append_inj (digits _) (digits _) (by simp [Text.StopsRun])
    (by simp [Text.StopsRun]) (List.append_cancel_left upToLine)
  have line := List.append_cancel_left number.2
  rw [TracedLine.mk.injEq]
  exact ⟨Text.ofNat_injective number.1, line, Text.ofNat_injective opens.2,
    Text.ofNat_injective closes.2, Text.ofInt_injective before.2, Text.ofInt_injective after.2⟩

/-- Only the text of a traced line can hold a line feed. -/
theorem TracedLine.not_mem_render {trace : TracedLine} (onOneLine : '\n' ∉ trace.text) :
    '\n' ∉ trace.render := by
  unfold render
  simp [onOneLine, Text.not_mem_ofNat, Text.not_mem_ofInt, Text.isNumeralChar]

namespace Report

/-- No traced line of the report holds a line feed. -/
def TracesLines (report : Report) : Prop :=
  ∀ trace ∈ report.traces, '\n' ∉ trace.text

instance (report : Report) : Decidable report.TracesLines :=
  inferInstanceAs (Decidable (∀ trace ∈ report.traces, _))

/-- The reports agree in all that their texts show. -/
structure ShowsLike (report other : Report) : Prop where
  traces : report.traces = other.traces
  finalBalance : report.finalBalance = other.finalBalance
  negativeLines : report.negativeLines = other.negativeLines

/-- What follows a report in a text: nothing, or a line feed. -/
def MayFollow (rest : Text) : Prop :=
  rest = [] ∨ rest.head? = some '\n'

theorem renderTrace_append_inj {report other : Report} (tracesLines : report.TracesLines)
    (otherTracesLines : other.TracesLines) {rest otherRest : Text}
    (same : report.renderTrace ++ '\n' :: rest = other.renderTrace ++ '\n' :: otherRest) :
    report.traces = other.traces ∧ rest = otherRest := by
  have delimited : ∀ trace ∈ report.traces, ∀ otherTrace ∈ other.traces, ∀ rest otherRest : Text,
      True → True → trace.render ++ "\n" ++ rest = otherTrace.render ++ "\n" ++ otherRest →
      trace = otherTrace ∧ rest = otherRest := by
    intro trace traceMem otherTrace otherTraceMem rest otherRest _ _ same
    simp only [List.append_assoc] at same
    have cut := Text.cut_inj (TracedLine.not_mem_render (tracesLines trace traceMem))
      (TracedLine.not_mem_render (otherTracesLines otherTrace otherTraceMem)) same
    exact ⟨TracedLine.render_injective cut.1, cut.2⟩
  have notEnding (trace : TracedLine) (text : Text) :
      trace.render ++ "\n" ++ text ≠ '\n' :: rest ∧ trace.render ++ "\n" ++ text ≠ '\n' :: otherRest := by
    unfold TracedLine.render
    simp
  have read := Text.flatMap_append_inj delimited (fun _ _ => trivial) trivial trivial notEnding same
  exact ⟨List.forall₂_eq_eq_eq ▸ read.1, List.tail_eq_of_cons_eq read.2⟩

/-- The line on what is missing depends on the final balance alone. -/
theorem renderImbalance_congr {report other : Report}
    (same : report.finalBalance = other.finalBalance) :
    report.renderImbalance = other.renderImbalance := by
  simp only [renderImbalance, imbalance?, same]

/-- A number of a list, behind another. -/
def renderFurther (number : Nat) : Text :=
  ',' :: ' ' :: Text.ofNat number

theorem furtherNumbers_append_inj {numbers others : List Nat} {rest otherRest : Text}
    (same : numbers.flatMap renderFurther ++ ']' :: rest =
      others.flatMap renderFurther ++ ']' :: otherRest) : numbers = others ∧ rest = otherRest := by
  have digits (number : Nat) : ∀ char ∈ Text.ofNat number, char.isDigit :=
    fun _ digitMem => Text.isDigit_of_mem_ofNat digitMem
  have delimited : ∀ number ∈ numbers, ∀ other ∈ others, ∀ rest otherRest : Text,
      Text.StopsRun Char.isDigit rest → Text.StopsRun Char.isDigit otherRest →
      renderFurther number ++ rest = renderFurther other ++ otherRest →
      number = other ∧ rest = otherRest := by
    intro number _ other _ rest otherRest stops otherStops same
    simp only [renderFurther, List.cons_append, List.cons.injEq, true_and] at same
    have cut := Text.run_append_inj (digits number) (digits other) stops otherStops same
    exact ⟨Text.ofNat_injective cut.1, cut.2⟩
  have bracketStops (rest : Text) : Text.StopsRun Char.isDigit (']' :: rest) :=
    Text.stopsRun_cons rfl rest
  have read := Text.flatMap_append_inj delimited (by simp [renderFurther, Text.StopsRun])
    (bracketStops rest) (bracketStops otherRest) (by simp [renderFurther]) same
  exact ⟨List.forall₂_eq_eq_eq ▸ read.1, List.tail_eq_of_cons_eq read.2⟩

theorem renderNegativeLines_cons {report : Report} {number : Nat} {numbers : List Nat}
    (negativeLines : report.negativeLines = number :: numbers) :
    report.renderNegativeLines =
      "Lines where balance went negative: [" ++ (Text.ofNat number ++
        (numbers.flatMap renderFurther ++ "]\n")) := by
  unfold renderNegativeLines
  simp [wentNegative, negativeLines, Text.join, List.flatMap_map]
  rfl

theorem renderNegativeLines_nil {report : Report} (negativeLines : report.negativeLines = []) :
    report.renderNegativeLines = [] := by
  simp [renderNegativeLines, wentNegative, negativeLines]

theorem renderNegativeLines_append_inj {report other : Report} {rest otherRest : Text}
    (mayFollow : MayFollow rest) (otherMayFollow : MayFollow otherRest)
    (same : report.renderNegativeLines ++ rest = other.renderNegativeLines ++ otherRest) :
    report.negativeLines = other.negativeLines ∧ rest = otherRest := by
  have notLines {text rest : Text} (mayFollow : MayFollow rest) :
      'L' :: text ≠ rest := by
    rintro rfl
    simp [MayFollow] at mayFollow
  cases negativeLines : report.negativeLines with
  | nil =>
      cases otherNegativeLines : other.negativeLines with
      | nil =>
          rw [renderNegativeLines_nil negativeLines, renderNegativeLines_nil otherNegativeLines]
            at same
          exact ⟨rfl, same⟩
      | cons otherNumber otherNumbers =>
          rw [renderNegativeLines_nil negativeLines, renderNegativeLines_cons otherNegativeLines]
            at same
          exact absurd same.symm (notLines mayFollow)
  | cons number numbers =>
      cases otherNegativeLines : other.negativeLines with
      | nil =>
          rw [renderNegativeLines_cons negativeLines, renderNegativeLines_nil otherNegativeLines]
            at same
          exact absurd same (notLines otherMayFollow)
      | cons otherNumber otherNumbers =>
          rw [renderNegativeLines_cons negativeLines, renderNegativeLines_cons otherNegativeLines]
            at same
          simp only [List.append_assoc] at same
          have numbersSame := List.append_cancel_left same
          have read := @furtherNumbers_append_inj (number :: numbers) (otherNumber :: otherNumbers)
            ('\n' :: rest) ('\n' :: otherRest) (by simpa [renderFurther] using numbersSame)
          exact ⟨read.1, List.tail_eq_of_cons_eq read.2⟩

/-- A report is read off a text that goes on with something else. -/
theorem render_append_inj {report other : Report} (tracesLines : report.TracesLines)
    (otherTracesLines : other.TracesLines) {rest otherRest : Text} (mayFollow : MayFollow rest)
    (otherMayFollow : MayFollow otherRest)
    (same : report.render true ++ rest = other.render true ++ otherRest) :
    report.ShowsLike other ∧ rest = otherRest := by
  unfold render at same
  simp only [if_true, List.append_assoc] at same
  have summary := renderTrace_append_inj tracesLines otherTracesLines same
  have notFeed (value : Int) : '\n' ∉ Text.ofInt value := Text.not_mem_ofInt rfl value
  have balance := Text.cut_inj (notFeed _) (notFeed _) (List.append_cancel_left summary.2)
  have sameBalance := Text.ofInt_injective balance.1
  have behindBalance := balance.2
  rw [renderImbalance_congr sameBalance] at behindBalance
  have negative := renderNegativeLines_append_inj mayFollow otherMayFollow
    (List.append_cancel_left behindBalance)
  exact ⟨⟨summary.1, sameBalance, negative.1⟩, negative.2⟩

theorem showsLike_of_render_eq {report other : Report} (tracesLines : report.TracesLines)
    (otherTracesLines : other.TracesLines) (same : report.render true = other.render true) :
    report.ShowsLike other := by
  have read := @render_append_inj report other tracesLines otherTracesLines [] [] (Or.inl rfl)
    (Or.inl rfl) (by simpa using same)
  exact read.1

/-- What is shown of a line is a part of it, and no line holds a line feed. -/
theorem tracesLines_ofText (detector : CommentDetector) (text : Text) :
    (ofText detector text).TracesLines := by
  intro trace traceMem
  rcases exists_line_of_mem_traces detector text traceMem with ⟨line, lineMem, -, shown⟩
  rw [shown]
  exact ((Text.unbroken_of_mem_lines lineMem).trimBy Text.isBlank).1

end Report

end BraceBalance
