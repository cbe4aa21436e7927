import BraceBalance.Check.Listing
import BraceBalance.Proofs.Check.Summary
import BraceBalance.Proofs.Text.Basic
import BraceBalance.Proofs.Text.Numeral

/-!
# Verdicts of a listing

Behind its reports a listing has one line for each report that is not clean, and then a last line.
Which reports get a line, what the line says, how many there are according to the last line and
whether a strict check fails is decided in four places on their own. Here they agree: the last line
tells of success exactly if the summary is clean, and otherwise it counts the lines before it.
-/

namespace BraceBalance

namespace Text

/-- A text ends with a line that the only line feed in it ends. -/
inductive EndsWithLine : Text → Text → Prop where
  | intro {before content : Text} (begins : before = [] ∨ before.getLast? = some '\n')
      (unbroken : '\n' ∉ content) : EndsWithLine (before ++ (content ++ "\n")) (content ++ "\n")

theorem EndsWithLine.unique {text line other : Text} (left : EndsWithLine text line)
    (right : EndsWithLine text other) : line = other := by
  have stops {before : Text} (begins : before = [] ∨ before.getLast? = some '\n') :
      StopsRun (· ≠ '\n') before.reverse := by
    intro char head
    rw [List.head?_reverse] at head
    rcases begins with rfl | ends
    · simp at head
    · rw [ends, Option.some.injEq] at head
      simp [head.symm]
  have accepted {content : Text} (unbroken : '\n' ∉ content) :
      ∀ char ∈ content, decide (char ≠ '\n') := by
    intro char charMem
    simpa using ne_of_mem_of_not_mem charMem unbroken
  generalize isText : text = whole at right
  rcases left with ⟨begins, unbroken⟩
  rcases right with ⟨otherBegins, otherUnbroken⟩
  rw [← List.append_assoc, ← List.append_assoc] at isText
  have cut := append_run_inj (accepted unbroken) (accepted otherUnbroken) (stops begins)
    (stops otherBegins) (List.append_cancel_right isText)
  rw [cut.2]

end Text

namespace Imbalance

theorem message_missingClosing (number : Nat) :
    (missingClosing number).message = "Missing " ++ Text.ofNat number ++ " closing brace(s)" := by
  unfold message count direction
  simp only [List.append_assoc]
  rfl

theorem message_missingOpening (number : Nat) :
    (missingOpening number).message = "Missing " ++ Text.ofNat number ++ " opening brace(s)" := by
  unfold message count direction
  simp only [List.append_assoc]
  rfl

end Imbalance

namespace Report

theorem imbalance?_of_eq_zero {report : Report} (balanced : report.finalBalance = 0) :
    report.imbalance? = none := by
  simp only [imbalance?, balanced]

theorem imbalance?_of_pos {report : Report} (positive : 0 < report.finalBalance) :
    report.imbalance? = some (.missingClosing report.finalBalance.natAbs) := by
  unfold imbalance?
  split
  · simp_all
  · rename_i balance
    rw [balance]
    rfl
  · simp_all

theorem imbalance?_of_neg {report : Report} (negative : report.finalBalance < 0) :
    report.imbalance? = some (.missingOpening report.finalBalance.natAbs) := by
  unfold imbalance?
  split
  · simp_all
  · simp_all
    omega
  · rename_i balance
    rw [balance]
    rfl

end Report

namespace Listing

/-- The line on a report that is not clean. What is missing at the end goes before what was wrong
on the way. -/
inductive TellsFlaw (colors : Bool) (report : Report) : Text → Prop where
  | missingClosing (positive : 0 < report.finalBalance) :
      TellsFlaw colors report (Console.warning colors (report.displayName ++ ": "
        ++ ("Missing " ++ Text.ofNat report.finalBalance.natAbs ++ " closing brace(s)")))
  | missingOpening (negative : report.finalBalance < 0) :
      TellsFlaw colors report (Console.warning colors (report.displayName ++ ": "
        ++ ("Missing " ++ Text.ofNat report.finalBalance.natAbs ++ " opening brace(s)")))
  | negativeLines (balanced : report.finalBalance = 0) (negative : report.negativeLines ≠ []) :
      TellsFlaw colors report (Console.warning colors (report.displayName
        ++ ": balanced, but negative on " ++ Text.ofNat report.negativeLines.length ++ " line(s)"))

theorem warning_ne_success (colors : Bool) (message other : Text) :
    Console.warning colors message ≠ Console.success colors other := by
  cases colors <;> simp [Console.warning, Console.success, Style.paint, Style.code]

/-- The last line of a listing without flawed reports. -/
def successLine (colors : Bool) (reports : List Report) : Text :=
  Console.success colors (Text.ofNat reports.length ++ " file(s) balanced")

/-- The last line of a listing with so many flawed reports. -/
def warningLine (colors : Bool) (reports : List Report) (flawed : Nat) : Text :=
  Console.warning colors (Text.ofNat flawed ++ " of " ++ Text.ofNat reports.length
    ++ " file(s) need attention")

theorem tellsFlaw_verdict {report : Report} (flawed : report.isClean = false) (colors : Bool) :
    TellsFlaw colors report (Console.verdict colors report) := by
  unfold Console.verdict
  rcases lt_trichotomy report.finalBalance 0 with negative | balanced | positive
  · simp only [Report.imbalance?_of_neg negative, Imbalance.message_missingOpening]
    exact .missingOpening negative
  · have negative : report.negativeLines ≠ [] := by
      rcases Report.isFlawed_iff_isClean.mpr flawed with unbalanced | negative
      · exact absurd balanced unbalanced
      · exact negative
    have wentNegative : report.wentNegative = true := by
      simpa [Report.wentNegative] using negative
    simp only [Report.imbalance?_of_eq_zero balanced, wentNegative, if_true]
    exact .negativeLines balanced negative
  · simp only [Report.imbalance?_of_pos positive, Imbalance.message_missingClosing]
    exact .missingClosing positive

theorem TellsFlaw.ne_success {colors : Bool} {report : Report} {line : Text}
    (tells : TellsFlaw colors report line) (message : Text) :
    line ≠ Console.success colors message := by
  cases tells <;> exact warning_ne_success colors _ message

theorem renderTotal_of_allClean {reports : List Report} {strict : Bool}
    (allClean : (CheckSummary.ofReports reports strict).allClean) (colors : Bool) :
    renderTotal colors reports = successLine colors reports := by
  have clean : reports.countP Report.isClean = reports.length := by
    rw [List.countP_eq_length]
    intro report reportMem
    have notFlawed := (CheckSummary.allClean_ofReports_iff reports strict).mp allClean report reportMem
    simpa [Report.isFlawed_iff_isClean] using notFlawed
  unfold renderTotal successLine
  rw [clean, if_pos rfl]

theorem renderTotal_of_not_allClean {reports : List Report} {strict : Bool}
    (notAll : (CheckSummary.ofReports reports strict).allClean = false) (colors : Bool) :
    renderTotal colors reports =
      warningLine colors reports (reports.countP fun report => !report.isClean) := by
  have apart : reports.length =
      reports.countP Report.isClean + reports.countP fun report => !report.isClean := by
    rw [List.length_eq_countP_add_countP Report.isClean]
    simp
  have notClean : reports.countP Report.isClean ≠ reports.length := by
    intro clean
    rw [List.countP_eq_length] at clean
    rw [← Bool.not_eq_true, CheckSummary.allClean_ofReports_iff] at notAll
    apply notAll
    intro report reportMem
    simpa [Report.isFlawed_iff_isClean] using clean report reportMem
  have flawed : reports.length - reports.countP Report.isClean =
      reports.countP fun report => !report.isClean := by
    omega
  unfold renderTotal warningLine
  rw [if_neg notClean, flawed]

/-! ## The last line -/

theorem getLast?_warning (colors : Bool) (message : Text) :
    (Console.warning colors message).getLast? = some '\n' := by
  unfold Console.warning
  exact List.getLast?_concat

theorem TellsFlaw.getLast? {colors : Bool} {report : Report} {line : Text}
    (tells : TellsFlaw colors report line) : line.getLast? = some '\n' := by
  cases tells <;> exact getLast?_warning colors _

theorem getLast?_append_flatten {before : Text} {lines : List Text}
    (begins : before.getLast? = some '\n') (ended : ∀ line ∈ lines, line.getLast? = some '\n') :
    (before ++ lines.flatten).getLast? = some '\n' := by
  induction lines generalizing before with
  | nil => simpa using begins
  | cons line lines ih =>
      rw [List.flatten_cons, ← List.append_assoc]
      apply ih
      · simp [ended line List.mem_cons_self]
      · intro other otherMem
        exact ended other (List.mem_cons_of_mem line otherMem)

theorem not_mem_paint {style : Style} {colors : Bool} {mark : Text} (unbroken : '\n' ∉ mark) :
    '\n' ∉ style.paint colors mark := by
  cases colors <;> cases style <;> simp [Style.paint, Style.code, unbroken]

theorem endsWithLine_success {before message : Text} (begins : before.getLast? = some '\n')
    (unbroken : '\n' ∉ message) (colors : Bool) :
    Text.EndsWithLine (before ++ Console.success colors message)
      (Console.success colors message) := by
  apply Text.EndsWithLine.intro (Or.inr begins)
  simp [not_mem_paint, unbroken]

theorem endsWithLine_warning {before message : Text} (begins : before.getLast? = some '\n')
    (unbroken : '\n' ∉ message) (colors : Bool) :
    Text.EndsWithLine (before ++ Console.warning colors message)
      (Console.warning colors message) := by
  apply Text.EndsWithLine.intro (Or.inr begins)
  simp [not_mem_paint, unbroken]

theorem endsWithLine_renderTotal {before : Text} (begins : before.getLast? = some '\n')
    (colors : Bool) (reports : List Report) :
    Text.EndsWithLine (before ++ renderTotal colors reports) (renderTotal colors reports) := by
  have unbroken (number : Nat) : '\n' ∉ Text.ofNat number := Text.not_mem_ofNat rfl number
  unfold renderTotal
  dsimp only
  split
  · apply endsWithLine_success begins
    simp [unbroken]
  · apply endsWithLine_warning begins
    simp [unbroken]

theorem successLine_ne_warningLine (colors : Bool) (reports : List Report) (flawed : Nat) :
    successLine colors reports ≠ warningLine colors reports flawed :=
  (warning_ne_success colors _ _).symm

/-- The verdicts of a listing of several reports. -/
theorem render_of_several {reports : List Report} (several : 2 ≤ reports.length)
    (colors showTrace : Bool) :
    render colors showTrace reports =
      Text.join "\n" (reports.map (renderUnderHeader colors showTrace)) ++ "\n" ++
        ((reports.filter fun report => !report.isClean).map (Console.verdict colors)).flatten ++
          renderTotal colors reports := by
  rcases reports with _ | ⟨first, _ | ⟨second, others⟩⟩
  · simp at several
  · simp at several
  · simp only [render, renderVerdicts, List.flatMap_def]

theorem tellsFlaw_of_mem_verdicts {colors : Bool} {reports : List Report} {verdict : Text}
    (verdictMem : verdict ∈
      (reports.filter fun report => !report.isClean).map (Console.verdict colors)) :
    ∃ report, TellsFlaw colors report verdict := by
  rcases List.mem_map.mp verdictMem with ⟨report, reportMem, rfl⟩
  have flawed : report.isClean = false := by simpa using (List.mem_filter.mp reportMem).2
  exact ⟨report, tellsFlaw_verdict flawed colors⟩

/-- The total is the last line of a listing of several reports, and no other line is. -/
theorem endsWithLine_render_iff {reports : List Report} (several : 2 ≤ reports.length)
    (colors showTrace : Bool) (line : Text) :
    Text.EndsWithLine (render colors showTrace reports) line ↔ line = renderTotal colors reports := by
  have ends : Text.EndsWithLine (render colors showTrace reports) (renderTotal colors reports) := by
    rw [render_of_several several]
    apply endsWithLine_renderTotal
    apply getLast?_append_flatten
    · exact List.getLast?_concat
    · intro verdict verdictMem
      rcases tellsFlaw_of_mem_verdicts verdictMem with ⟨report, tells⟩
      exact tells.getLast?
  constructor
  · intro otherEnds
    exact otherEnds.unique ends
  · rintro rfl
    exact ends

theorem successLine_eq_renderTotal_iff (colors strict : Bool) (reports : List Report) :
    successLine colors reports = renderTotal colors reports ↔
      (CheckSummary.ofReports reports strict).allClean := by
  cases allClean : (CheckSummary.ofReports reports strict).allClean with
  | true => simp [renderTotal_of_allClean allClean]
  | false => simp [renderTotal_of_not_allClean allClean, successLine_ne_warningLine]

theorem warningLine_eq_renderTotal_iff (colors strict : Bool) (reports : List Report) :
    warningLine colors reports (reports.countP fun report => !report.isClean) =
      renderTotal colors reports ↔ ¬(CheckSummary.ofReports reports strict).allClean := by
  cases allClean : (CheckSummary.ofReports reports strict).allClean with
  | true => simp [renderTotal_of_allClean allClean, (successLine_ne_warningLine _ _ _).symm]
  | false => simp [renderTotal_of_not_allClean allClean]

/-- A listing has a line on each report that is not clean, in the order of the reports, and none on
the others. Its last line counts these lines, and is one of success exactly if there are none. -/
theorem render_tellsFlaws (colors showTrace strict : Bool) {reports : List Report}
    (several : 2 ≤ reports.length) :
    let summary := CheckSummary.ofReports reports strict
    let output := render colors showTrace reports
    ∃ verdicts : List Text,
      (∃ last, Text.EndsWithLine output last ∧
        output = Text.join "\n" (reports.map (renderUnderHeader colors showTrace)) ++ "\n" ++
          verdicts.flatten ++ last) ∧
      List.Forall₂ (TellsFlaw colors) (reports.filter fun report => !report.isClean) verdicts ∧
      (∀ verdict ∈ verdicts, ∀ message, verdict ≠ Console.success colors message) ∧
      (Text.EndsWithLine output (successLine colors reports) ↔ summary.allClean) ∧
      (Text.EndsWithLine output (warningLine colors reports verdicts.length) ↔
        ¬summary.allClean) ∧
      max summary.unbalanced summary.wentNegative ≤ verdicts.length ∧
      verdicts.length ≤ summary.unbalanced + summary.wentNegative ∧
      (strict → (summary.fails ↔
        Text.EndsWithLine output (warningLine colors reports verdicts.length))) := by
  intro summary output
  have isLast : ∀ line, Text.EndsWithLine output line ↔ line = renderTotal colors reports :=
    endsWithLine_render_iff several colors showTrace
  have length : ((reports.filter fun report => !report.isClean).map
      (Console.verdict colors)).length = reports.countP fun report => !report.isClean := by
    rw [List.length_map, List.countP_eq_length_filter]
  have warning := warningLine_eq_renderTotal_iff colors strict reports
  have counted := CheckSummary.countP_isFlawed_bounds reports strict
  refine ⟨_, ⟨_, (isLast _).mpr rfl, render_of_several several colors showTrace⟩, ?_, ?_, ?_, ?_, ?_,
    ?_, ?_⟩
  · rw [List.forall₂_map_right_iff, List.forall₂_same]
    intro report reportMem
    have flawed : report.isClean = false := by simpa using (List.mem_filter.mp reportMem).2
    exact tellsFlaw_verdict flawed colors
  · intro verdict verdictMem
    rcases tellsFlaw_of_mem_verdicts verdictMem with ⟨report, tells⟩
    exact tells.ne_success
  · rw [isLast]
    exact successLine_eq_renderTotal_iff colors strict reports
  · rw [isLast, length]
    exact warning
  · rw [length]
    exact counted.1
  · rw [length]
    exact counted.2
  · intro isStrict
    have strictness : summary.strict = true := isStrict
    rw [isLast, length, warning]
    simp [CheckSummary.fails, strictness, summary]

/-- A report with both faults. -/
def openedLate : Report := ⟨some "a.rs", 3, 1, [], [1]⟩

/-- A report that is balanced at its end only. -/
def crossed : Report := ⟨some "b.rs", 2, 0, [], [1]⟩

/-- Two lines, although the summary counts three faults. -/
theorem render_tellsFlaws_overlapping :
    let reports := [openedLate, ⟨none, 0, 0, [], []⟩, crossed]
    let summary := CheckSummary.ofReports reports true
    2 ≤ reports.length ∧ summary.unbalanced + summary.wentNegative = 3 ∧ summary.fails ∧
      ∃ verdicts : List Text, List.Forall₂ (TellsFlaw false) [openedLate, crossed] verdicts ∧
        Text.EndsWithLine (render false true reports)
          (warningLine false reports verdicts.length) := by
  intro reports summary
  have several : 2 ≤ reports.length := by decide
  rcases render_tellsFlaws false true true several with
    ⟨verdicts, _, tells, _, _, warning, _, _, _⟩
  refine ⟨several, by decide, by decide, verdicts, tells, ?_⟩
  exact warning.mpr (by decide)

end Listing

end BraceBalance
