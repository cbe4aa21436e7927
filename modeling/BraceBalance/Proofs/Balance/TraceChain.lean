import BraceBalance.Proofs.Balance.PrefixSums
import Mathlib.Data.List.Chain

/-!
# What the traces tell

Only lines with braces are traced, but no other line moves the balance. The traces of a report are
therefore a chain: each begins with the balance that the one before it leaves. With the number of
lines they tell the rest of the report. The last of them tells the final balance, and the balance
after a line is negative if the last trace up to this line leaves it so. A run of negative lines
begins with a trace, and goes on over lines without a trace to the next one or to the end.

One more line preserves this. If it is traced, the trace is put behind the others and tells the
balance after the line; if not, the last of the others still does.
-/

namespace BraceBalance

namespace TracedLine

/-- The traces of a text of so many lines are in order and fit each other. -/
structure Chained (linesScanned : Nat) (traces : List TracedLine) : Prop where
  increasing : traces.Pairwise fun earlier later => earlier.line < later.line
  within : ∀ trace ∈ traces, 1 ≤ trace.line ∧ trace.line ≤ linesScanned
  counts : ∀ trace ∈ traces,
    0 < trace.opens + trace.closes ∧ trace.after = trace.before + trace.opens - trace.closes
  first : ∀ trace, traces.head? = some trace → trace.before = 0
  linked : traces.IsChain fun earlier later => later.before = earlier.after

/-- The balance that the last trace leaves; without traces there is nothing to balance. -/
def lastBalance (traces : List TracedLine) : Int :=
  match traces.getLast? with
  | some trace => trace.after
  | none => 0

/-- The last of the traces up to a line. -/
def lastUpTo? (traces : List TracedLine) (number : Nat) : Option TracedLine :=
  (traces.filter fun trace => trace.line ≤ number).getLast?

/-- The numbers of the lines up to which there is a trace, and the last one leaves a negative
balance. -/
def negativeLines (linesScanned : Nat) (traces : List TracedLine) : List Nat :=
  (List.range' 1 linesScanned).filter fun number =>
    (lastUpTo? traces number).any fun trace => trace.after < 0

theorem chained_nil : Chained 0 [] where
  increasing := .nil
  within := by simp
  counts := by simp
  first := by simp
  linked := .nil

/-- A line without a trace. -/
theorem Chained.succ {linesScanned : Nat} {traces : List TracedLine}
    (chained : Chained linesScanned traces) : Chained (linesScanned + 1) traces where
  increasing := chained.increasing
  within := by
    intro trace traceMem
    have bounds := chained.within trace traceMem
    omega
  counts := chained.counts
  first := chained.first
  linked := chained.linked

/-- A line whose trace goes on from where the last one ends. -/
theorem Chained.append_singleton {linesScanned : Nat} {traces : List TracedLine}
    (chained : Chained linesScanned traces) {trace : TracedLine}
    (line : trace.line = linesScanned + 1) (before : trace.before = lastBalance traces)
    (counts : 0 < trace.opens + trace.closes ∧
      trace.after = trace.before + trace.opens - trace.closes) :
    Chained (linesScanned + 1) (traces ++ [trace]) := by
  refine ⟨?_, ?_, ?_, ?_, ?_⟩
  · rw [List.pairwise_append]
    refine ⟨chained.increasing, List.pairwise_singleton _ trace, ?_⟩
    intro earlier earlierMem later laterMem
    have bounds := chained.within earlier earlierMem
    rw [List.mem_singleton.mp laterMem]
    omega
  · intro other otherMem
    rcases List.mem_append.mp otherMem with earlierMem | lastMem
    · exact chained.succ.within other earlierMem
    · rw [List.mem_singleton.mp lastMem]
      omega
  · intro other otherMem
    rcases List.mem_append.mp otherMem with earlierMem | lastMem
    · exact chained.counts other earlierMem
    · rw [List.mem_singleton.mp lastMem]
      exact counts
  · intro head isHead
    rcases traces with _ | ⟨first, traces⟩
    · have same : trace = head := by simpa using isHead
      rw [← same, before]
      rfl
    · exact chained.first head isHead
  · rw [List.isChain_append]
    refine ⟨chained.linked, List.isChain_singleton trace, ?_⟩
    intro last lastMem next nextMem
    have isLast : traces.getLast? = some last := lastMem
    have same : trace = next := by simpa using nextMem
    rw [← same, before, lastBalance, isLast]

theorem lastUpTo?_of_within {traces : List TracedLine} {number : Nat}
    (within : ∀ trace ∈ traces, trace.line ≤ number) :
    lastUpTo? traces number = traces.getLast? := by
  have all : traces.filter (fun trace => trace.line ≤ number) = traces := by
    rw [List.filter_eq_self]
    intro trace traceMem
    exact decide_eq_true (within trace traceMem)
  rw [lastUpTo?, all]

theorem lastUpTo?_append_of_beyond (traces : List TracedLine) {more : List TracedLine} {number : Nat}
    (beyond : ∀ trace ∈ more, number < trace.line) :
    lastUpTo? (traces ++ more) number = lastUpTo? traces number := by
  have none : more.filter (fun trace => trace.line ≤ number) = [] := by
    rw [List.filter_eq_nil_iff]
    intro trace traceMem
    have later := beyond trace traceMem
    simp only [decide_eq_true_eq]
    omega
  rw [lastUpTo?, List.filter_append, none, List.append_nil, lastUpTo?]

theorem getLast?_any_neg (traces : List TracedLine) :
    (traces.getLast?.any fun trace => trace.after < 0) = decide (lastBalance traces < 0) := by
  rw [lastBalance]
  cases traces.getLast? <;> rfl

/-- The traces of one more line decide about this line and about no other. -/
theorem negativeLines_succ {linesScanned : Nat} {traces more : List TracedLine}
    (within : ∀ trace ∈ traces ++ more, trace.line ≤ linesScanned + 1)
    (beyond : ∀ trace ∈ more, linesScanned < trace.line) :
    negativeLines (linesScanned + 1) (traces ++ more) =
      negativeLines linesScanned traces ++
        if lastBalance (traces ++ more) < 0 then [linesScanned + 1] else [] := by
  have earlier :
      (List.range' 1 linesScanned).filter
          (fun number => (lastUpTo? (traces ++ more) number).any fun trace => trace.after < 0) =
        negativeLines linesScanned traces := by
    apply List.filter_congr
    intro number numberMem
    have bounds := List.mem_range'_1.mp numberMem
    rw [lastUpTo?_append_of_beyond traces fun trace traceMem =>
      Nat.lt_of_lt_of_le (by omega) (beyond trace traceMem)]
  rw [negativeLines, List.range'_concat, List.filter_append, earlier, Nat.one_mul,
    Nat.add_comm 1, List.filter_singleton, lastUpTo?_of_within within, getLast?_any_neg]
  by_cases negative : lastBalance (traces ++ more) < 0
  · simp [negative]
  · simp [negative]

end TracedLine

namespace Progress

/-- The traces of a scan are chained and tell what else it knows. -/
structure ToldByTraces (progress : Progress) : Prop where
  chained : TracedLine.Chained progress.linesRead progress.traces.reverse
  balance : progress.balance = TracedLine.lastBalance progress.traces.reverse
  negativeLines :
    progress.negativeLines.reverse =
      TracedLine.negativeLines progress.linesRead progress.traces.reverse

theorem toldByTraces_start : start.ToldByTraces where
  chained := TracedLine.chained_nil
  balance := rfl
  negativeLines := rfl

variable (detector : CommentDetector)

/-- Either the line leaves the traces and the balance as they are, or it adds a trace that begins
with the balance before it and ends with the balance after it. -/
theorem readLine_cases (progress : Progress) (line : Text) :
    let next := progress.readLine detector line
    next.traces = progress.traces ∧ next.balance = progress.balance ∨
      ∃ trace : TracedLine, next.traces = trace :: progress.traces ∧
        trace.line = progress.linesRead + 1 ∧ trace.before = progress.balance ∧
        trace.after = next.balance ∧ 0 < trace.opens + trace.closes ∧
        trace.after = trace.before + trace.opens - trace.closes := by
  by_cases counts : detector.countsBrace line
  · have counted : 0 < openBraces (detector.strip line) + closeBraces (detector.strip line) := by
      rw [detector.countsBrace_iff] at counts
      omega
    exact Or.inr ⟨_, progress.traces_readLine_of_countsBrace counts, rfl, rfl, rfl, counted, rfl⟩
  · exact Or.inl (progress.readLine_of_not_countsBrace counts)

theorem negativeLines_readLine (progress : Progress) (line : Text) :
    (progress.readLine detector line).negativeLines.reverse =
      progress.negativeLines.reverse ++
        if (progress.readLine detector line).balance < 0 then [progress.linesRead + 1] else [] := by
  have noted : (progress.readLine detector line).negativeLines =
      if (progress.readLine detector line).balance < 0 then
        (progress.linesRead + 1) :: progress.negativeLines
      else progress.negativeLines := rfl
  rw [noted]
  split
  · rw [List.reverse_cons]
  · rw [List.append_nil]

theorem ToldByTraces.readLine {progress : Progress} (told : progress.ToldByTraces) (line : Text) :
    (progress.readLine detector line).ToldByTraces := by
  have negativeLines := negativeLines_readLine detector progress line
  rw [told.negativeLines] at negativeLines
  rcases readLine_cases detector progress line with
    ⟨traces, balance⟩ | ⟨trace, traces, number, before, after, counts⟩
  · have chained := told.chained.succ
    have within : ∀ trace ∈ progress.traces.reverse ++ [], trace.line ≤ progress.linesRead + 1 := by
      intro trace traceMem
      rw [List.append_nil] at traceMem
      exact (chained.within trace traceMem).2
    have decided := TracedLine.negativeLines_succ within (by simp)
    rw [List.append_nil, ← told.balance, ← balance, ← negativeLines] at decided
    refine ⟨?_, ?_, ?_⟩
    · rw [traces]
      exact chained
    · rw [traces, balance, told.balance]
    · rw [traces]
      exact decided.symm
  · have chained := told.chained.append_singleton number (before.trans told.balance) counts
    have lastBalance : TracedLine.lastBalance (progress.traces.reverse ++ [trace]) =
        (progress.readLine detector line).balance := by
      rw [TracedLine.lastBalance, List.getLast?_concat]
      exact after
    have decided := TracedLine.negativeLines_succ
      (fun other otherMem => (chained.within other otherMem).2) (by simp [number])
    rw [lastBalance, ← negativeLines] at decided
    refine ⟨?_, ?_, ?_⟩
    · rw [traces, List.reverse_cons]
      exact chained
    · rw [traces, List.reverse_cons, lastBalance]
    · rw [traces, List.reverse_cons]
      exact decided.symm

theorem ToldByTraces.foldl_readLine {progress : Progress} (told : progress.ToldByTraces)
    (lines : List Text) : (lines.foldl (Progress.readLine detector) progress).ToldByTraces := by
  induction lines generalizing progress with
  | nil => exact told
  | cons line lines ih => exact ih (told.readLine detector line)

end Progress

namespace Report

/-- The report that traces and a number of lines tell. -/
def ofTraces (linesScanned : Nat) (traces : List TracedLine) : Report where
  path := none
  linesScanned
  finalBalance := TracedLine.lastBalance traces
  traces
  negativeLines := TracedLine.negativeLines linesScanned traces

/-- A report is determined by its traces and the number of lines, and its traces are chained, for
every detector. -/
theorem ofText_eq_ofTraces (detector : CommentDetector) (text : Text) :
    let report := ofText detector text
    report = ofTraces report.linesScanned report.traces ∧
      TracedLine.Chained report.linesScanned report.traces := by
  intro report
  have told := Progress.toldByTraces_start.foldl_readLine detector text.lines
  refine ⟨?_, told.chained⟩
  simp only [report, ofText, Progress.report, ofTraces, told.balance, told.negativeLines]

/-- The balance is negative from a trace on, over lines without one. -/
example :
    TracedLine.negativeLines 7
        [⟨2, "\x7d", 0, 1, 0, -1⟩, ⟨5, "\x7b\x7b", 2, 0, -1, 1⟩, ⟨6, "\x7d\x7d", 0, 2, 1, -1⟩] =
      [2, 3, 4, 6, 7] := by
  decide

end Report

end BraceBalance
