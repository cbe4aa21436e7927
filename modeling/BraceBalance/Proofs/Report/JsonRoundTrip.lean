import BraceBalance.Proofs.Json.RoundTrip
import BraceBalance.Proofs.Text.Packed
import BraceBalance.Report.Json
import BraceBalance.Report.Reader

/-!
# Reports survive JSON

A list of reports can be rendered as JSON if all their paths are texts, and then it is read back
as it was. The only other condition is the one under which its numbers are numbers of a report at
all: counts and line numbers are natural numbers of at most 64 bits, and balances are integers of
64 bits. Traced texts are arbitrary, and so are the lengths of all lists.

The reader fills a draft member by member. As the members are rendered in the order of the
fields, each is read once into an empty place, and in the end no place is left empty.
-/

namespace BraceBalance

open JsonReader

/-- The numbers of a traced line have at most 64 bits. -/
def TracedLine.fits (trace : TracedLine) : Bool :=
  Text.fitsUnsigned trace.line && Text.fitsUnsigned trace.opens
    && Text.fitsUnsigned trace.closes && Text.fitsSigned trace.before
    && Text.fitsSigned trace.after

/-- The numbers of a report have at most 64 bits. -/
def Report.fits (report : Report) : Bool :=
  Text.fitsUnsigned report.linesScanned && Text.fitsSigned report.finalBalance
    && report.traces.all TracedLine.fits && report.negativeLines.all Text.fitsUnsigned

namespace JsonReader

theorem Reads.map {α β : Type} {reader : JsonReader α} {text : Text} {value : α}
    (reads : Reads reader text value) (put : α → β) :
    Reads (do return put (← reader)) text (put value) := by
  intro rest ends
  rw [run_bind_of_run (reads rest ends)]
  rfl

end JsonReader

namespace TraceDraft

/-- The members of a rendered trace fill an empty draft. -/
theorem membersLead_toJson {trace : TracedLine} (fits : trace.fits) (depth : Nat) :
    Json.MembersLead readMember depth {}
      [("line", .number trace.line), ("text", .string trace.text),
        ("opens", .number trace.opens), ("closes", .number trace.closes),
        ("before", .number trace.before), ("after", .number trace.after)]
      { line := some trace.line, text := some trace.text, opens := some trace.opens
        closes := some trace.closes, before := some trace.before, after := some trace.after } := by
  simp only [TracedLine.fits, Bool.and_eq_true] at fits
  rcases fits with ⟨⟨⟨⟨line, opens⟩, closes⟩, before⟩, after⟩
  have naturalMember {number : Nat} (fits : Text.fitsUnsigned number) :
      Reads (once none natural) (": " ++ (Json.number number).renderAt depth) (some number) :=
    Json.reads_once_renderAt skipsBlanks_natural (reads_natural fits)
  have signedMember {value : Int} (fits : Text.fitsSigned value) :
      Reads (once none signed) (": " ++ (Json.number value).renderAt depth) (some value) :=
    Json.reads_once_renderAt skipsBlanks_signed (reads_signed fits)
  have textMember (text : Text) :
      Reads (once none string) (": " ++ (Json.string text).renderAt depth) (some text) :=
    Json.reads_once_renderAt skipsBlanks_string (Json.reads_string_quote text)
  refine .cons ((naturalMember line).map _) ?_
  refine .cons ((textMember trace.text).map _) ?_
  refine .cons ((naturalMember opens).map _) ?_
  refine .cons ((naturalMember closes).map _) ?_
  refine .cons ((signedMember before).map _) ?_
  refine .cons ((signedMember after).map _) ?_
  exact .nil _

end TraceDraft

theorem TracedLine.reads_toJson {trace : TracedLine} (fits : trace.fits) (depth : Nat) :
    Reads TracedLine.read (trace.toJson.renderAt depth) trace := by
  intro rest _
  rcases Json.members_run_renderAt (TraceDraft.membersLead_toJson fits (depth + 1)) with
    ⟨text, shape, run⟩
  rw [TracedLine.toJson, shape, List.cons_append, TracedLine.read,
    run_bind_of_run (peekToken_run_cons rfl _), if_pos rfl,
    run_bind_of_run (advance_run _ _), run_bind_of_run (run rest)]
  rfl

theorem reads_path (path : Option Text) (depth : Nat) :
    Reads string? ((path.elim Json.null Json.string).renderAt depth) path := by
  cases path with
  | none => exact reads_string?_null
  | some text => exact reads_string?_some (Json.spellsString_flatMap text)

namespace ReportDraft

/-- The members of a rendered report fill an empty draft. -/
theorem membersLead_toJson {report : Report} (fits : report.fits) (path : Option Text)
    (depth : Nat) :
    Json.MembersLead readMember depth {}
      [("path", path.elim .null .string),
        ("lines_scanned", .number report.linesScanned),
        ("final_balance", .number report.finalBalance),
        ("traces", .array (report.traces.map TracedLine.toJson)),
        ("problematic_lines",
          .array (report.negativeLines.map fun (line : Nat) => .number line))]
      { path := some path, linesScanned := some report.linesScanned
        finalBalance := some report.finalBalance, traces := some report.traces
        negativeLines := some report.negativeLines } := by
  simp only [Report.fits, Bool.and_eq_true, List.all_eq_true] at fits
  rcases fits with ⟨⟨⟨linesScanned, finalBalance⟩, traces⟩, negativeLines⟩
  have pathMember := Json.reads_once_renderAt skipsBlanks_string? (reads_path path depth)
  have lineCount :
      Reads natural ((Json.number report.linesScanned).renderAt depth) report.linesScanned :=
    reads_natural linesScanned
  have balance :
      Reads signed ((Json.number report.finalBalance).renderAt depth) report.finalBalance :=
    reads_signed finalBalance
  have traceList :
      Reads (array TracedLine.read)
        ((Json.array (report.traces.map TracedLine.toJson)).renderAt depth) report.traces :=
    Json.reads_array_renderAt fun trace traceMem =>
      TracedLine.reads_toJson (traces trace traceMem) (depth + 1)
  have lineList :
      Reads (array natural)
        ((Json.array (report.negativeLines.map fun (line : Nat) => .number line)).renderAt depth)
        report.negativeLines :=
    Json.reads_array_renderAt fun line lineMem => reads_natural (negativeLines line lineMem)
  refine .cons (pathMember.map _) ?_
  refine .cons ((Json.reads_once_renderAt skipsBlanks_natural lineCount).map _) ?_
  refine .cons ((Json.reads_once_renderAt skipsBlanks_signed balance).map _) ?_
  refine .cons ((Json.reads_once_renderAt (skipsBlanks_array _) traceList).map _) ?_
  refine .cons ((Json.reads_once_renderAt (skipsBlanks_array _) lineList).map _) ?_
  exact .nil _

end ReportDraft

namespace Report

variable {reports : List Report}

/-- A path that is a text stands for the bytes of this text. -/
theorem path_eq_map_ofText {report : Report} {path : Option Text}
    (isPath : report.pathText? = some path) : report.path = path.map Packed.ofText := by
  rcases report with ⟨held | held⟩
  · simp only [pathText?, Option.mapM_none, Option.pure_def, Option.some.injEq] at isPath
    rw [← isPath, Option.map_none]
  · simp only [pathText?, Option.mapM_some, Option.map_eq_map, Option.map_eq_some_iff] at isPath
    rcases isPath with ⟨text, isText, rfl⟩
    rw [Packed.eq_ofText_of_text? isText, Option.map_some]

theorem reads_toJson {report : Report} (fits : report.fits) {path : Option Text}
    (isPath : report.pathText? = some path) (depth : Nat) :
    Reads Report.read ((report.toJson path).renderAt depth) report := by
  intro rest _
  rcases Json.members_run_renderAt (ReportDraft.membersLead_toJson fits path (depth + 1)) with
    ⟨text, shape, run⟩
  rw [Report.toJson, shape, List.cons_append, Report.read,
    run_bind_of_run (peekToken_run_cons rfl _), if_pos rfl,
    run_bind_of_run (advance_run _ _), run_bind_of_run (run rest)]
  simp only [ReportDraft.complete?, Option.join_some, ← path_eq_map_ofText isPath]
  rfl

theorem map_shown_path {report : Report} {path : Option Text}
    (isPath : report.pathText? = some path) : report.path.map Packed.shown = path := by
  rw [path_eq_map_ofText isPath, Option.map_map]
  cases path <;> simp

theorem toJson?_eq_some {report : Report} (isText : report.pathText?.isSome) :
    report.toJson? = some (report.toJson (report.path.map Packed.shown)) := by
  rcases Option.isSome_iff_exists.mp isText with ⟨path, isPath⟩
  rw [toJson?, isPath, map_shown_path isPath, Option.map_some]

theorem renderJson?_eq_some (areTexts : ∀ report ∈ reports, report.pathText?.isSome) :
    renderJson? reports =
      some (Json.array (reports.map fun report =>
        report.toJson (report.path.map Packed.shown))).render := by
  have objects : reports.mapM toJson? =
      some (reports.map fun report => report.toJson (report.path.map Packed.shown)) := by
    induction reports with
    | nil => rfl
    | cons report reports ih =>
        rw [List.forall_mem_cons] at areTexts
        rw [List.mapM_cons, toJson?_eq_some areTexts.1, ih areTexts.2]
        rfl
  rw [renderJson?, objects, Option.map_some]

/-- Reports cannot be rendered as JSON exactly if the path of one of them is no text. -/
theorem renderJson?_eq_none_iff :
    renderJson? reports = none ↔ ∃ report ∈ reports, report.pathText? = none := by
  rw [renderJson?, Option.map_eq_none_iff]
  induction reports with
  | nil => simp
  | cons report reports ih =>
      rw [List.exists_mem_cons_iff, ← ih, List.mapM_cons, toJson?]
      cases report.pathText? with
      | none => simp
      | some path => cases reports.mapM toJson? <;> simp

theorem isSome_pathText?_of_renderJson? {text : Text} (rendered : renderJson? reports = some text) :
    ∀ report ∈ reports, report.pathText?.isSome := by
  intro report reportMem
  rw [Option.isSome_iff_ne_none]
  intro isBroken
  rw [renderJson?_eq_none_iff.mpr ⟨report, reportMem, isBroken⟩] at rendered
  contradiction

/-- Rendered reports are read back as they were, also with blanks behind them. -/
theorem parseJson_append_of_renderJson? {text blanks : Text}
    (rendered : renderJson? reports = some text) (fit : ∀ report ∈ reports, report.fits)
    (allBlank : AllLayout blanks) : parseJson (text ++ blanks) = .ok reports := by
  have areTexts := isSome_pathText?_of_renderJson? rendered
  rw [renderJson?_eq_some areTexts, Option.some.injEq] at rendered
  rw [← rendered]
  refine readAll_append_eq_ok ?_ allBlank
  refine Json.reads_array_renderAt fun report reportMem => ?_
  rcases Option.isSome_iff_exists.mp (areTexts report reportMem) with ⟨path, isPath⟩
  rw [map_shown_path isPath]
  exact reads_toJson (fit report reportMem) isPath 1

/-- Reports whose paths are texts can be rendered, and are read back as they were. -/
theorem parseJson_renderJson (fit : reports.all Report.fits)
    (areTexts : ∀ report ∈ reports, report.pathText?.isSome) :
    ∃ text, renderJson? reports = some text ∧ parseJson text = .ok reports := by
  rw [List.all_eq_true] at fit
  have rendered := renderJson?_eq_some areTexts
  have read := parseJson_append_of_renderJson? rendered fit allLayout_nil
  rw [List.append_nil] at read
  exact ⟨_, rendered, read⟩

/-- Reports at the limits: the extreme numbers, empty lists, no path, and texts of quotes,
backslashes and control characters. -/
theorem parseJson_renderJson_extremes :
    let trace : TracedLine :=
      { line := Text.maxUnsigned, text := ['"', '\\', '\x00', '\n', '\x1f', '/', '\x7f', 'é']
        opens := 0, closes := Text.maxUnsigned, before := Text.minSigned, after := Text.maxSigned }
    let full : Report :=
      { path := some (Packed.ofText ['\t', '\'', '"', 'é']), linesScanned := Text.maxUnsigned
        finalBalance := Text.minSigned, traces := [trace, trace]
        negativeLines := [0, Text.maxUnsigned] }
    let bare : Report := ⟨none, 0, 0, [], []⟩
    ∃ text, renderJson? [full, bare] = some text ∧ parseJson text = .ok [full, bare] := by
  intro trace full bare
  exact parseJson_renderJson rfl (by decide)

end Report

end BraceBalance
