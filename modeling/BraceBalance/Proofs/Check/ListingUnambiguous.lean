import BraceBalance.Check.Listing
import BraceBalance.Proofs.Text.Packed
import BraceBalance.Proofs.Report.Unambiguous

/-!
# Reading reports off a listing

A listing shows several reports under their headers. An empty line stands before every report but
the first, and before the verdicts, and what follows this empty line tells which of the two it is:
a header begins with an arrow, and a verdict and the last line begin with a mark. The names in the
headers and the traced lines may imitate all of this, but not at the beginning of a line.
-/

namespace BraceBalance

namespace Listing

/-- No name and no traced line of the report holds a line feed. -/
structure FitsLines (report : Report) : Prop where
  displayName : '\n' ∉ report.displayName
  traces : report.TracesLines

/-- The reports agree in all that is shown of them under their headers. -/
structure ListedLike (report other : Report) : Prop where
  displayName : report.displayName = other.displayName
  shown : report.ShowsLike other

theorem header_append_inj {report other : Report} {rest otherRest : Text}
    (fits : '\n' ∉ report.displayName) (otherFits : '\n' ∉ other.displayName)
    (same : Console.header false report.header ++ rest =
      Console.header false other.header ++ otherRest) :
    report.displayName = other.displayName ∧ rest = otherRest := by
  have notFeed {report : Report} (fits : '\n' ∉ report.displayName) : '\n' ∉ report.header := by
    unfold Report.header
    simp [fits]
  unfold Console.header at same
  simp only [Style.paint, Bool.false_eq_true, if_false, List.append_assoc] at same
  have cut := Text.cut_inj (notFeed fits) (notFeed otherFits) same
  have header := cut.1
  unfold Report.header at header
  exact ⟨List.append_cancel_left (List.append_cancel_right header), cut.2⟩

theorem renderUnderHeader_append_inj {report other : Report} (fits : FitsLines report)
    (otherFits : FitsLines other) {rest otherRest : Text} (mayFollow : Report.MayFollow rest)
    (otherMayFollow : Report.MayFollow otherRest)
    (same : renderUnderHeader false true report ++ rest =
      renderUnderHeader false true other ++ otherRest) :
    ListedLike report other ∧ rest = otherRest := by
  simp only [renderUnderHeader, List.append_assoc] at same
  have header := header_append_inj fits.displayName otherFits.displayName same
  have shown := Report.render_append_inj fits.traces otherFits.traces mayFollow otherMayFollow
    header.2
  exact ⟨⟨header.1, shown.1⟩, shown.2⟩

/-- What comes after the reports begins with a mark. -/
def BeginsWithMark (text : Text) : Prop :=
  text.head? = some '✓' ∨ text.head? = some '⚠'

theorem beginsWithMark_success (message rest : Text) :
    BeginsWithMark (Console.success false message ++ rest) := by
  simp [BeginsWithMark, Console.success, Style.paint]

theorem beginsWithMark_warning (message rest : Text) :
    BeginsWithMark (Console.warning false message ++ rest) := by
  simp [BeginsWithMark, Console.warning, Style.paint]

theorem beginsWithMark_verdict (report : Report) (rest : Text) :
    BeginsWithMark (Console.verdict false report ++ rest) := by
  unfold Console.verdict
  split
  · exact beginsWithMark_warning _ rest
  · split
    · exact beginsWithMark_warning _ rest
    · exact beginsWithMark_success _ rest

theorem beginsWithMark_ending (reports : List Report) :
    BeginsWithMark (renderVerdicts false reports ++ renderTotal false reports) := by
  rw [renderVerdicts]
  cases reports.filter fun report => !report.isClean with
  | nil =>
      simp only [List.flatMap_nil, List.nil_append, renderTotal]
      split
      · simpa using beginsWithMark_success _ []
      · simpa using beginsWithMark_warning _ []
  | cons flawed others =>
      rw [List.flatMap_cons, List.append_assoc]
      exact beginsWithMark_verdict flawed _

/-- A report of a listing with the empty line before it. -/
def renderApart (report : Report) : Text :=
  '\n' :: renderUnderHeader false true report

/-- With an empty line also before the first report, all reports of a listing look the same. -/
theorem render_of_two_le {reports : List Report} (several : 2 ≤ reports.length) :
    '\n' :: render false true reports =
      reports.flatMap renderApart ++
        '\n' :: (renderVerdicts false reports ++ renderTotal false reports) := by
  rcases reports with _ | ⟨first, _ | ⟨second, others⟩⟩
  · simp at several
  · simp at several
  · unfold render
    simp [Text.join, List.flatMap_map]
    rfl

theorem forall₂_listedLike_of_render_eq {reports others : List Report}
    (several : 2 ≤ reports.length) (otherSeveral : 2 ≤ others.length)
    (fit : ∀ report ∈ reports, FitsLines report) (otherFit : ∀ other ∈ others, FitsLines other)
    (same : render false true reports = render false true others) :
    List.Forall₂ ListedLike reports others := by
  have delimited : ∀ report ∈ reports, ∀ other ∈ others, ∀ rest otherRest : Text,
      rest.head? = some '\n' → otherRest.head? = some '\n' →
      renderApart report ++ rest = renderApart other ++ otherRest →
      ListedLike report other ∧ rest = otherRest := by
    intro report reportMem other otherMem rest otherRest follows otherFollows same
    exact renderUnderHeader_append_inj (fit report reportMem) (otherFit other otherMem)
      (Or.inr follows) (Or.inr otherFollows) (List.tail_eq_of_cons_eq same)
  have notEnding (report : Report) (rest : Text) {ending : Text} (marked : BeginsWithMark ending) :
      renderApart report ++ rest ≠ '\n' :: ending := by
    rintro isEnding
    have isHeader : ending.head? = some '=' := by
      rw [← List.tail_eq_of_cons_eq isEnding]
      unfold renderUnderHeader Report.header
      simp [Console.header, Style.paint]
    simp [BeginsWithMark, isHeader] at marked
  have whole := congrArg ('\n' :: ·) same
  simp only [render_of_two_le several, render_of_two_le otherSeveral] at whole
  have read := Text.flatMap_append_inj delimited (fun _ _ => rfl) rfl rfl
    (fun report rest => ⟨notEnding report rest (beginsWithMark_ending reports),
      notEnding report rest (beginsWithMark_ending others)⟩) whole
  exact read.1

/-- Reports can be read off their listing, and a single report off its text without its name, if
no name and no traced line holds a line feed. In the report on a text no traced line does. -/
theorem listedLike_of_render_eq :
    (∀ reports others : List Report, 2 ≤ reports.length → 2 ≤ others.length →
      (∀ report ∈ reports, FitsLines report) → (∀ other ∈ others, FitsLines other) →
      render false true reports = render false true others →
      List.Forall₂ ListedLike reports others) ∧
    (∀ report other : Report, report.TracesLines → other.TracesLines →
      report.render true = other.render true → report.ShowsLike other) ∧
    ∀ (detector : CommentDetector) (text : Text), (Report.ofText detector text).TracesLines := by
  refine ⟨?_, ?_, ?_⟩
  · intro reports others several otherSeveral fit otherFit same
    exact forall₂_listedLike_of_render_eq several otherSeveral fit otherFit same
  · intro report other tracesLines otherTracesLines same
    exact Report.showsLike_of_render_eq tracesLines otherTracesLines same
  · exact Report.tracesLines_ofText

/-- A traced line that holds the ending of another trace and the beginning of a summary. -/
def imitation : TracedLine where
  line := 1
  text := "\x7b' -> +1 -0 (balance: 0 -> 1)\r\rFinal balance: 0"
  opens := 1
  closes := 0
  before := 0
  after := 1

/-- Imitations of traces and headers. The number of lines and whether there is a path at all are
not shown. -/
theorem listedLike_of_render_eq_imitations :
    let reports : List Report :=
      [⟨none, 2, 1, [imitation], []⟩, ⟨some "b <==\r==> c", 3, -1, [], [2, 3]⟩]
    let others : List Report :=
      [⟨some "<input>", 9, 1, [imitation], []⟩, ⟨some "b <==\r==> c", 0, -1, [], [2, 3]⟩]
    let commented := Report.ofText (.quoteParity "//") "\x7b\x7d' -> +2 -2 // "
    let plain := Report.ofText .never "\x7b\x7d' -> +2 -2 // \r\n\n"
    (∀ report ∈ reports, FitsLines report) ∧ (∀ other ∈ others, FitsLines other) ∧
      render false true reports = render false true others ∧
      List.Forall₂ ListedLike reports others ∧
      commented.render true = plain.render true ∧ commented.ShowsLike plain := by
  intro reports others commented plain
  have fit : ∀ report ∈ reports, FitsLines report := by
    intro report reportMem
    rcases List.mem_pair.mp reportMem with rfl | rfl
    · exact ⟨by simp [Report.displayName], by decide⟩
    · exact ⟨by simp [Report.displayName], by decide⟩
  have otherFit : ∀ other ∈ others, FitsLines other := by
    intro other otherMem
    rcases List.mem_pair.mp otherMem with rfl | rfl
    · exact ⟨by simp [Report.displayName], by decide⟩
    · exact ⟨by simp [Report.displayName], by decide⟩
  have same : render false true reports = render false true others := by
    simp [reports, others, render, renderUnderHeader, renderVerdicts, renderTotal,
      Console.verdict, Report.header, Report.displayName, Report.isClean, Report.isBalanced,
      Report.wentNegative, Report.imbalance?, Report.render, Report.renderTrace,
      Report.renderImbalance, Report.renderNegativeLines]
  have sameText : commented.render true = plain.render true := by decide
  rcases listedLike_of_render_eq with ⟨listings, renderings, onLines⟩
  refine ⟨fit, otherFit, same, ?_, sameText, ?_⟩
  · exact listings reports others (Nat.le_refl 2) (Nat.le_refl 2) fit otherFit same
  · exact renderings commented plain (onLines _ _) (onLines _ _) sameText

end Listing

end BraceBalance
