import BraceBalance.Proofs.Balance.WellNested
import BraceBalance.Proofs.Comment.Stripping
import BraceBalance.Proofs.Text.Basic
import BraceBalance.Proofs.Text.Lines

/-!
# Traces read anew

A trace shows its line without the blanks around it, while the braces are counted on the whole line.
The blanks can belong to the marker of a comment, so that the line that is shown may have no comment
where the whole line has one. Still it explains the counts. A marker that begins with one of the
blanks in front makes all of the line a comment, and then the line is not traced. A marker that ends
with one of the blanks behind may be lost, but then nothing follows its place except for a part of
the marker, which holds no brace.

The shown lines, one below the other, therefore make a text with the same traces, in which no line is
left out.
-/

namespace BraceBalance

theorem filter_isBrace_of_isBlank {text : Text} (blank : ∀ char ∈ text, Text.isBlank char) :
    text.filter isBrace = [] := by
  rw [List.filter_eq_nil_iff]
  intro char charMem brace
  have shown : Text.isBlank char = false := by
    simp only [isBrace, Bool.or_eq_true, decide_eq_true_eq] at brace
    rcases brace with rfl | rfl
    · decide
    · decide
  rw [blank char charMem] at shown
  contradiction

namespace CommentDetector

variable {marker : Text}

/-- If the marker stands where a line ends and what is added to it begins, the text before the
marker has all braces of the line: it lacks no more than a part of the marker. -/
theorem filter_isBrace_take_of_across {line trail : Text} {offset : Nat}
    (markerBraces : marker.filter isBrace = []) (trailBraces : trail.filter isBrace = [])
    (here : marker <+: (line ++ trail).drop offset) (across : line.length ≤ offset + marker.length) :
    ((line ++ trail).take offset).filter isBrace = line.filter isBrace := by
  have upToMarker :
      (line ++ trail).take (offset + marker.length) = (line ++ trail).take offset ++ marker := by
    rw [List.take_add, ← List.prefix_iff_eq_take.mp here]
  have linePrefix : line <+: (line ++ trail).take offset ++ marker := by
    rw [← upToMarker, List.take_append, List.take_of_length_le across]
    exact List.prefix_append _ _
  have fewer := (List.take_prefix offset (line ++ trail)).filter isBrace
  have more := linePrefix.filter isBrace
  rw [List.filter_append, trailBraces, List.append_nil] at fewer
  rw [List.filter_append, markerBraces, List.append_nil] at more
  exact fewer.eq_of_length_le more.length_le

/-- Blanks behind a line do not change which braces count. -/
theorem filter_isBrace_strip_append (markerBraces : marker.filter isBrace = []) {trail : Text}
    (blank : ∀ char ∈ trail, Text.isBlank char) (line : Text) :
    ((quoteParity marker).strip (line ++ trail)).filter isBrace =
      ((quoteParity marker).strip line).filter isBrace := by
  have trailBraces := filter_isBrace_of_isBlank blank
  have whole : (line ++ trail).filter isBrace = line.filter isBrace := by
    rw [List.filter_append, trailBraces, List.append_nil]
  by_cases isEmpty : marker = []
  · subst isEmpty
    exact whole
  cases found : line.firstOccurrence? marker with
  | some offset =>
      rw [strip_append isEmpty found, strip_of_firstOccurrence? isEmpty found]
      split
      · rfl
      · exact whole
  | none =>
      rw [strip_of_no_occurrence found]
      cases foundInBoth : (line ++ trail).firstOccurrence? marker with
      | none => rw [strip_of_no_occurrence foundInBoth, whole]
      | some offset =>
          rw [strip_of_firstOccurrence? isEmpty foundInBoth]
          split
          · have here := ((Text.firstOccurrence?_eq_some_iff isEmpty).mp foundInBoth).1
            have across : line.length ≤ offset + marker.length := by
              by_contra within
              exact Text.not_prefix_drop_of_firstOccurrence?_eq_none isEmpty found offset
                (Text.prefix_drop_of_append (by omega) here)
            exact filter_isBrace_take_of_across markerBraces trailBraces here across
          · exact whole

theorem countsBrace_iff_filter (detector : CommentDetector) (line : Text) :
    detector.countsBrace line ↔ (detector.strip line).filter isBrace ≠ [] := by
  simp only [countsBrace, Bool.or_eq_true, List.contains_iff_mem, ne_eq, List.filter_eq_nil_iff,
    isBrace, decide_eq_true_eq]
  grind

/-- Of a line with a brace that counts the same braces count when it is shown. -/
theorem filter_isBrace_strip_trimForDisplay (markerBraces : marker.filter isBrace = []) {line : Text}
    (counts : (quoteParity marker).countsBrace line) :
    ((quoteParity marker).strip line.trimForDisplay).filter isBrace =
      ((quoteParity marker).strip line).filter isBrace := by
  rcases Text.exists_eq_append_trimBy Text.isBlank line with
    ⟨lead, trail, leadBlank, trailBlank, whole⟩
  have split : line = lead ++ (line.trimForDisplay ++ trail) := whole
  rw [countsBrace_iff_filter] at counts
  rcases strip_append_of_isBlank leadBlank marker (line.trimForDisplay ++ trail) with
    allBlank | moved
  · rw [← split] at allBlank
    exact absurd (filter_isBrace_of_isBlank allBlank) counts
  · rw [← split] at moved
    rw [moved, List.filter_append, filter_isBrace_of_isBlank leadBlank, List.nil_append,
      filter_isBrace_strip_append markerBraces trailBlank]

/-- The braces of a traced line that count are those of the line as it is shown. -/
def CountsAsShown (detector : CommentDetector) : Prop :=
  ∀ line, detector.countsBrace line →
    openBraces (detector.strip line.trimForDisplay) = openBraces (detector.strip line) ∧
      closeBraces (detector.strip line.trimForDisplay) = closeBraces (detector.strip line)

theorem CountsAsShown.countsBrace {detector : CommentDetector} (shown : detector.CountsAsShown)
    {line : Text} (counts : detector.countsBrace line) : detector.countsBrace line.trimForDisplay := by
  rcases shown line counts with ⟨opens, closes⟩
  rwa [detector.countsBrace_iff, opens, closes, ← detector.countsBrace_iff]

theorem ne_nil_of_countsBrace {detector : CommentDetector} {line : Text}
    (counts : detector.countsBrace line) : line ≠ [] := by
  rintro rfl
  have nothing : detector.strip [] = [] := by
    rw [strip]
    split
    · exact List.take_nil
    · rfl
  rw [CommentDetector.countsBrace, nothing] at counts
  contradiction

theorem countsAsShown_quoteParity (noOpen : '{' ∉ marker) (noClose : '}' ∉ marker) :
    (quoteParity marker).CountsAsShown := by
  have markerBraces : marker.filter isBrace = [] := by
    rw [List.filter_eq_nil_iff]
    intro char charMem
    have notOpen := ne_of_mem_of_not_mem charMem noOpen
    have notClose := ne_of_mem_of_not_mem charMem noClose
    simp [isBrace, notOpen, notClose]
  intro line counts
  have same := filter_isBrace_strip_trimForDisplay markerBraces counts
  refine ⟨?_, ?_⟩
  · rw [← openBraces_filter_isBrace, same, openBraces_filter_isBrace]
  · rw [← closeBraces_filter_isBrace, same, closeBraces_filter_isBrace]

end CommentDetector

/-- The traces with their own numbers in place of those of their lines. -/
def TracedLine.renumber (traces : List TracedLine) : List TracedLine :=
  traces.mapIdx fun index trace => { trace with line := index + 1 }

theorem TracedLine.renumber_append_singleton (traces : List TracedLine) (trace : TracedLine) :
    renumber (traces ++ [trace]) = renumber traces ++ [{ trace with line := traces.length + 1 }] :=
  List.mapIdx_concat

namespace Progress

/-- A scan of the lines that the traces of another show. -/
def replay (detector : CommentDetector) (progress : Progress) : Progress :=
  (progress.traces.reverse.map TracedLine.text).foldl (readLine detector) start

/-- The scan of the shown lines has the same balance and the same traces, one on each line. -/
structure Replays (detector : CommentDetector) (progress : Progress) : Prop where
  linesRead : (progress.replay detector).linesRead = progress.traces.length
  balance : (progress.replay detector).balance = progress.balance
  traces :
    (progress.replay detector).traces.reverse = TracedLine.renumber progress.traces.reverse

theorem replays_start (detector : CommentDetector) : start.Replays detector where
  linesRead := rfl
  balance := rfl
  traces := rfl

variable {detector : CommentDetector}

/-- A line without a trace is not seen again, and the trace of any other is made anew. -/
theorem Replays.readLine (shown : detector.CountsAsShown) {progress : Progress}
    (replays : progress.Replays detector) (line : Text) :
    (progress.readLine detector line).Replays detector := by
  by_cases counts : detector.countsBrace line
  · rcases shown line counts with ⟨opens, closes⟩
    have traces := progress.traces_readLine_of_countsBrace counts
    have next : (progress.readLine detector line).replay detector =
        (progress.replay detector).readLine detector line.trimForDisplay := by
      rw [replay, traces, List.reverse_cons, List.map_append, List.foldl_append]
      rfl
    have balance : (progress.replay detector |>.readLine detector line.trimForDisplay).balance =
        (progress.readLine detector line).balance := by
      simp only [Progress.readLine, replays.balance, opens, closes]
    refine ⟨?_, ?_, ?_⟩
    · rw [next, traces, List.length_cons, ← replays.linesRead]
      rfl
    · rw [next, balance]
    · have trimmedTwice : line.trimForDisplay.trimForDisplay = line.trimForDisplay :=
        Text.trimBy_trimBy _ line
      rw [next, traces_readLine_of_countsBrace _ (shown.countsBrace counts), traces,
        List.reverse_cons, List.reverse_cons, replays.traces, TracedLine.renumber_append_singleton,
        balance, opens, closes, trimmedTwice, replays.linesRead, replays.balance,
        List.length_reverse]
  · rcases progress.readLine_of_not_countsBrace counts with ⟨traces, balance⟩
    refine ⟨?_, ?_, ?_⟩
    · rw [replay, traces]
      exact replays.linesRead
    · rw [replay, traces, balance]
      exact replays.balance
    · rw [replay, traces]
      exact replays.traces

theorem Replays.foldl_readLine (shown : detector.CountsAsShown) {progress : Progress}
    (replays : progress.Replays detector) (lines : List Text) :
    (lines.foldl (Progress.readLine detector) progress).Replays detector := by
  induction lines generalizing progress with
  | nil => exact replays
  | cons line lines ih => exact ih (replays.readLine shown line)

end Progress

namespace Report

/-- What a trace shows is a line of its own. -/
theorem unbroken_of_mem_traces {detector : CommentDetector} (shown : detector.CountsAsShown)
    {text : Text} {trace : TracedLine} (traceMem : trace ∈ (ofText detector text).traces) :
    trace.text.Unbroken ∧ trace.text ≠ [] := by
  rcases exists_line_of_mem_traces detector text traceMem with ⟨line, lineMem, counts, isShown⟩
  rw [isShown]
  exact ⟨(Text.unbroken_of_mem_lines lineMem).trimBy Text.isBlank,
    CommentDetector.ne_nil_of_countsBrace (shown.countsBrace counts)⟩

/-- The lines that the traces of a report show, one below the other, have the same final balance and
the same traces, one on each line. -/
theorem ofText_shownLines {marker : Text} (noOpen : '{' ∉ marker) (noClose : '}' ∉ marker)
    (text : Text) :
    let report := ofText (.quoteParity marker) text
    let replay :=
      ofText (.quoteParity marker) (Text.join ['\n'] (report.traces.map TracedLine.text))
    replay.finalBalance = report.finalBalance ∧
      replay.traces = TracedLine.renumber report.traces := by
  intro report replay
  have shown := CommentDetector.countsAsShown_quoteParity noOpen noClose
  have replays := (Progress.replays_start (.quoteParity marker)).foldl_readLine shown text.lines
  have lines : Text.lines (Text.join ['\n'] (report.traces.map TracedLine.text)) =
      report.traces.map TracedLine.text := by
    apply Text.lines_join
    intro line lineMem
    rcases List.mem_map.mp lineMem with ⟨trace, traceMem, rfl⟩
    exact unbroken_of_mem_traces shown traceMem
  simp only [replay, ofText, lines]
  exact ⟨replays.balance, replays.traces⟩

/-- A line that is shown without the end of its marker, a line without a trace, and a comment with a
brace. -/
theorem ofText_shownLines_halfMarker :
    let text : Text := "\x1C f(\x7b# \x1C\r\nx\n\t\x7d # \x7d"
    let shown : Text := "f(\x7b#\n\x7d # \x7d"
    ('{' ∉ ("# " : Text) ∧ '}' ∉ ("# " : Text)) ∧
      Text.join ['\n'] ((ofText (.quoteParity "# ") text).traces.map TracedLine.text) = shown ∧
      (ofText (.quoteParity "# ") shown).finalBalance = 0 ∧
      (ofText (.quoteParity "# ") shown).traces =
        [⟨1, "f(\x7b#", 1, 0, 0, 1⟩, ⟨2, "\x7d # \x7d", 0, 1, 1, 0⟩] := by
  intro text shown
  have noOpen : '{' ∉ ("# " : Text) := by decide
  have noClose : '}' ∉ ("# " : Text) := by decide
  have joined :
      Text.join ['\n'] ((ofText (.quoteParity "# ") text).traces.map TracedLine.text) = shown := by
    decide
  have balance : (ofText (.quoteParity "# ") text).finalBalance = 0 := by decide
  have traces : TracedLine.renumber (ofText (.quoteParity "# ") text).traces =
      [⟨1, "f(\x7b#", 1, 0, 0, 1⟩, ⟨2, "\x7d # \x7d", 0, 1, 1, 0⟩] := by decide
  rcases ofText_shownLines noOpen noClose text with ⟨sameBalance, sameTraces⟩
  rw [joined] at sameBalance sameTraces
  exact ⟨⟨noOpen, noClose⟩, joined, sameBalance.trans balance, sameTraces.trans traces⟩

/-- A brace that a marker loses with the blank behind it is counted when it is shown. -/
example :
    (ofText (.quoteParity "\x7d ") "\x7b\x7d ").finalBalance = 1 ∧
      (ofText (.quoteParity "\x7d ") "\x7b\x7d").finalBalance = 0 := by
  decide

end Report

end BraceBalance
