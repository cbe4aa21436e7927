import BraceBalance.Proofs.Json.Fields
import BraceBalance.Report.Reader

/-!
# Reports decoded from trees

What is read from a JSON text as a list of reports is what its tree is decoded to, for every JSON
text and both ways of writing a report, so that blanks and the spelling of strings make no
difference. Each field of a report is filled by the members with its key, and the other members
fill nothing.
-/

namespace BraceBalance

open JsonReader

/-! ## Traced lines -/

namespace TraceDraft

def keys : List Text := ["line", "text", "opens", "closes", "before", "after"]

/-- The draft after a member. -/
def step (draft : TraceDraft) (key : Text) (value : JsonTree) : Option TraceDraft :=
  if key = "line" then (fill draft.line value.natural?).map fun line => { draft with line }
  else if key = "text" then (fill draft.text value.text?).map fun text => { draft with text }
  else if key = "opens" then (fill draft.opens value.natural?).map fun opens => { draft with opens }
  else if key = "closes" then
    (fill draft.closes value.natural?).map fun closes => { draft with closes }
  else if key = "before" then
    (fill draft.before value.signed?).map fun before => { draft with before }
  else if key = "after" then (fill draft.after value.signed?).map fun after => { draft with after }
  else some draft

theorem decodesMember : DecodesMember readMember step := by
  intro key draft tree colonText text around spelled
  have naturalMember (known : Option Nat) := decodes_once decodes_natural skipsBlanks_natural known
    around spelled
  have signedMember (known : Option Int) := decodes_once decodes_signed skipsBlanks_signed known
    around spelled
  have textMember := decodes_once decodes_string skipsBlanks_string draft.text around spelled
  rw [readMember, step]
  split
  · exact (naturalMember draft.line).map _
  split
  · exact textMember.map _
  split
  · exact (naturalMember draft.opens).map _
  split
  · exact (naturalMember draft.closes).map _
  split
  · exact (signedMember draft.before).map _
  split
  · exact (signedMember draft.after).map _
  · exact answers_skipped draft around spelled

/-- A member changes no field but its own. -/
structure Keeps (key : Text) (draft next : TraceDraft) : Prop where
  line : key ≠ "line" → next.line = draft.line
  text : key ≠ "text" → next.text = draft.text
  opens : key ≠ "opens" → next.opens = draft.opens
  closes : key ≠ "closes" → next.closes = draft.closes
  before : key ≠ "before" → next.before = draft.before
  after : key ≠ "after" → next.after = draft.after

theorem keeps_of_step {draft next : TraceDraft} {key : Text} {value : JsonTree}
    (stepped : draft.step key value = some next) : Keeps key draft next := by
  unfold step at stepped
  split at stepped
  · rcases Option.map_eq_some_iff.mp stepped with ⟨line, _, rfl⟩
    refine ⟨fun different => absurd ‹_› different, ?_, ?_, ?_, ?_, ?_⟩ <;> exact fun _ => rfl
  split at stepped
  · rcases Option.map_eq_some_iff.mp stepped with ⟨text, _, rfl⟩
    refine ⟨?_, fun different => absurd ‹_› different, ?_, ?_, ?_, ?_⟩ <;> exact fun _ => rfl
  split at stepped
  · rcases Option.map_eq_some_iff.mp stepped with ⟨opens, _, rfl⟩
    refine ⟨?_, ?_, fun different => absurd ‹_› different, ?_, ?_, ?_⟩ <;> exact fun _ => rfl
  split at stepped
  · rcases Option.map_eq_some_iff.mp stepped with ⟨closes, _, rfl⟩
    refine ⟨?_, ?_, ?_, fun different => absurd ‹_› different, ?_, ?_⟩ <;> exact fun _ => rfl
  split at stepped
  · rcases Option.map_eq_some_iff.mp stepped with ⟨before, _, rfl⟩
    refine ⟨?_, ?_, ?_, ?_, fun different => absurd ‹_› different, ?_⟩ <;> exact fun _ => rfl
  split at stepped
  · rcases Option.map_eq_some_iff.mp stepped with ⟨after, _, rfl⟩
    refine ⟨?_, ?_, ?_, ?_, ?_, fun different => absurd ‹_› different⟩ <;> exact fun _ => rfl
  · cases stepped
    constructor <;> exact fun _ => rfl

theorem step_of_not_mem {key : Text} (unknown : key ∉ keys) (draft : TraceDraft)
    (value : JsonTree) : draft.step key value = some draft := by
  simp only [keys, List.mem_cons, List.not_mem_nil, or_false, not_or] at unknown
  simp only [step, unknown, if_false]

theorem fills_line : Fills step "line" TraceDraft.line JsonTree.natural? :=
  fills_of_put (fun _ _ => rfl) (fun _ _ => rfl)
    fun _ _ _ _ different stepped => (keeps_of_step stepped).line different

theorem fills_text : Fills step "text" TraceDraft.text JsonTree.text? :=
  fills_of_put (fun _ _ => rfl) (fun _ _ => rfl)
    fun _ _ _ _ different stepped => (keeps_of_step stepped).text different

theorem fills_opens : Fills step "opens" TraceDraft.opens JsonTree.natural? :=
  fills_of_put (fun _ _ => rfl) (fun _ _ => rfl)
    fun _ _ _ _ different stepped => (keeps_of_step stepped).opens different

theorem fills_closes : Fills step "closes" TraceDraft.closes JsonTree.natural? :=
  fills_of_put (fun _ _ => rfl) (fun _ _ => rfl)
    fun _ _ _ _ different stepped => (keeps_of_step stepped).closes different

theorem fills_before : Fills step "before" TraceDraft.before JsonTree.signed? :=
  fills_of_put (fun _ _ => rfl) (fun _ _ => rfl)
    fun _ _ _ _ different stepped => (keeps_of_step stepped).before different

theorem fills_after : Fills step "after" TraceDraft.after JsonTree.signed? :=
  fills_of_put (fun _ _ => rfl) (fun _ _ => rfl)
    fun _ _ _ _ different stepped => (keeps_of_step stepped).after different

/-- Each field has a place that its values fill. -/
theorem length_le_one_of_mem_keys {members : List (Option Text × JsonTree)} {start final : TraceDraft}
    (folded : members.foldlM (stepMember step) start = some final) {key : Text}
    (isKey : key ∈ keys) : (JsonTree.valuesOf key members).length ≤ 1 := by
  simp only [keys, List.mem_cons, List.not_mem_nil, or_false] at isKey
  rcases isKey with rfl | rfl | rfl | rfl | rfl | rfl
  · exact (fills_line.isSingle folded).length
  · exact (fills_text.isSingle folded).length
  · exact (fills_opens.isSingle folded).length
  · exact (fills_closes.isSingle folded).length
  · exact (fills_before.isSingle folded).length
  · exact (fills_after.isSingle folded).length

theorem answer?_complete? (draft : TraceDraft) (rest : Text) :
    answer? (match draft.complete? with
      | some trace => return trace
      | none => throw .unfit) rest = draft.complete?.map fun trace => (trace, rest) := by
  cases draft.complete? <;> rfl

end TraceDraft

namespace TracedLine

/-- The traced line that the tree is. -/
def ofTree? : JsonTree → Option TracedLine :=
  JsonTree.record? TraceDraft.step {} TraceDraft.complete? <|
    JsonTree.next? JsonTree.natural? fun line =>
    JsonTree.next? JsonTree.text? fun text =>
    JsonTree.next? JsonTree.natural? fun opens =>
    JsonTree.next? JsonTree.natural? fun closes =>
    JsonTree.next? JsonTree.signed? fun before =>
    JsonTree.next? JsonTree.signed? fun after =>
    JsonTree.last? { line, text, opens, closes, before, after }

theorem decodes_read : Decodes TracedLine.read ofTree? := by
  unfold TracedLine.read ofTree?
  refine decodes_record TraceDraft.decodesMember TraceDraft.answer?_complete? ?_
  refine decodes_firstElement decodes_natural fun line => ?_
  refine decodes_nextElement decodes_string fun text => ?_
  refine decodes_nextElement decodes_natural fun opens => ?_
  refine decodes_nextElement decodes_natural fun closes => ?_
  refine decodes_nextElement decodes_signed fun before => ?_
  refine decodes_nextElement decodes_signed fun after => ?_
  exact decodes_closeArray _

end TracedLine

/-! ## Reports -/

namespace ReportDraft

def keys : List Text := ["path", "lines_scanned", "final_balance", "traces", "problematic_lines"]

/-- The draft after a member. -/
def step (draft : ReportDraft) (key : Text) (value : JsonTree) : Option ReportDraft :=
  if key = "path" then (fill draft.path value.textOrNull?).map fun path => { draft with path }
  else if key = "lines_scanned" then
    (fill draft.linesScanned value.natural?).map fun linesScanned => { draft with linesScanned }
  else if key = "final_balance" then
    (fill draft.finalBalance value.signed?).map fun finalBalance => { draft with finalBalance }
  else if key = "traces" then
    (fill draft.traces (value.elements? TracedLine.ofTree?)).map fun traces =>
      { draft with traces }
  else if key = "problematic_lines" then
    (fill draft.negativeLines (value.elements? JsonTree.natural?)).map fun negativeLines =>
      { draft with negativeLines }
  else some draft

theorem decodesMember : DecodesMember readMember step := by
  intro key draft tree colonText text around spelled
  have traces := decodes_array TracedLine.decodes_read
  have negativeLines := decodes_array decodes_natural
  rw [readMember, step]
  split
  · exact (decodes_once decodes_string? skipsBlanks_string? draft.path around spelled).map _
  split
  · exact (decodes_once decodes_natural skipsBlanks_natural draft.linesScanned around spelled).map _
  split
  · exact (decodes_once decodes_signed skipsBlanks_signed draft.finalBalance around spelled).map _
  split
  · exact (decodes_once traces (skipsBlanks_array _) draft.traces around spelled).map _
  split
  · exact (decodes_once negativeLines (skipsBlanks_array _) draft.negativeLines around
      spelled).map _
  · exact answers_skipped draft around spelled

/-- A member changes no field but its own. -/
structure Keeps (key : Text) (draft next : ReportDraft) : Prop where
  path : key ≠ "path" → next.path = draft.path
  linesScanned : key ≠ "lines_scanned" → next.linesScanned = draft.linesScanned
  finalBalance : key ≠ "final_balance" → next.finalBalance = draft.finalBalance
  traces : key ≠ "traces" → next.traces = draft.traces
  negativeLines : key ≠ "problematic_lines" → next.negativeLines = draft.negativeLines

theorem keeps_of_step {draft next : ReportDraft} {key : Text} {value : JsonTree}
    (stepped : draft.step key value = some next) : Keeps key draft next := by
  unfold step at stepped
  split at stepped
  · rcases Option.map_eq_some_iff.mp stepped with ⟨path, _, rfl⟩
    refine ⟨fun different => absurd ‹_› different, ?_, ?_, ?_, ?_⟩ <;> exact fun _ => rfl
  split at stepped
  · rcases Option.map_eq_some_iff.mp stepped with ⟨linesScanned, _, rfl⟩
    refine ⟨?_, fun different => absurd ‹_› different, ?_, ?_, ?_⟩ <;> exact fun _ => rfl
  split at stepped
  · rcases Option.map_eq_some_iff.mp stepped with ⟨finalBalance, _, rfl⟩
    refine ⟨?_, ?_, fun different => absurd ‹_› different, ?_, ?_⟩ <;> exact fun _ => rfl
  split at stepped
  · rcases Option.map_eq_some_iff.mp stepped with ⟨traces, _, rfl⟩
    refine ⟨?_, ?_, ?_, fun different => absurd ‹_› different, ?_⟩ <;> exact fun _ => rfl
  split at stepped
  · rcases Option.map_eq_some_iff.mp stepped with ⟨negativeLines, _, rfl⟩
    refine ⟨?_, ?_, ?_, ?_, fun different => absurd ‹_› different⟩ <;> exact fun _ => rfl
  · cases stepped
    constructor <;> exact fun _ => rfl

theorem step_of_not_mem {key : Text} (unknown : key ∉ keys) (draft : ReportDraft)
    (value : JsonTree) : draft.step key value = some draft := by
  simp only [keys, List.mem_cons, List.not_mem_nil, or_false, not_or] at unknown
  simp only [step, unknown, if_false]

theorem fills_path : Fills step "path" ReportDraft.path JsonTree.textOrNull? :=
  fills_of_put (fun _ _ => rfl) (fun _ _ => rfl)
    fun _ _ _ _ different stepped => (keeps_of_step stepped).path different

theorem fills_linesScanned : Fills step "lines_scanned" linesScanned JsonTree.natural? :=
  fills_of_put (fun _ _ => rfl) (fun _ _ => rfl)
    fun _ _ _ _ different stepped => (keeps_of_step stepped).linesScanned different

theorem fills_finalBalance : Fills step "final_balance" finalBalance JsonTree.signed? :=
  fills_of_put (fun _ _ => rfl) (fun _ _ => rfl)
    fun _ _ _ _ different stepped => (keeps_of_step stepped).finalBalance different

theorem fills_traces :
    Fills step "traces" ReportDraft.traces (JsonTree.elements? TracedLine.ofTree?) :=
  fills_of_put (fun _ _ => rfl) (fun _ _ => rfl)
    fun _ _ _ _ different stepped => (keeps_of_step stepped).traces different

theorem fills_negativeLines :
    Fills step "problematic_lines" negativeLines (JsonTree.elements? JsonTree.natural?) :=
  fills_of_put (fun _ _ => rfl) (fun _ _ => rfl)
    fun _ _ _ _ different stepped => (keeps_of_step stepped).negativeLines different

theorem length_le_one_of_mem_keys {members : List (Option Text × JsonTree)}
    {start final : ReportDraft}
    (folded : members.foldlM (stepMember step) start = some final) {key : Text}
    (isKey : key ∈ keys) : (JsonTree.valuesOf key members).length ≤ 1 := by
  simp only [keys, List.mem_cons, List.not_mem_nil, or_false] at isKey
  rcases isKey with rfl | rfl | rfl | rfl | rfl
  · exact (fills_path.isSingle folded).length
  · exact (fills_linesScanned.isSingle folded).length
  · exact (fills_finalBalance.isSingle folded).length
  · exact (fills_traces.isSingle folded).length
  · exact (fills_negativeLines.isSingle folded).length

theorem answer?_complete? (draft : ReportDraft) (rest : Text) :
    answer? (match draft.complete? with
      | some report => return report
      | none => throw .unfit) rest = draft.complete?.map fun report => (report, rest) := by
  cases draft.complete? <;> rfl

end ReportDraft

namespace Report

/-- The report that the tree is. -/
def ofTree? : JsonTree → Option Report :=
  JsonTree.record? ReportDraft.step {} ReportDraft.complete? <|
    JsonTree.next? JsonTree.textOrNull? fun path =>
    JsonTree.next? JsonTree.natural? fun linesScanned =>
    JsonTree.next? JsonTree.signed? fun finalBalance =>
    JsonTree.next? (JsonTree.elements? TracedLine.ofTree?) fun traces =>
    JsonTree.next? (JsonTree.elements? JsonTree.natural?) fun negativeLines =>
    JsonTree.last?
      { path := path.map Packed.ofText, linesScanned, finalBalance, traces, negativeLines }

theorem decodes_read : Decodes Report.read ofTree? := by
  unfold Report.read ofTree?
  refine decodes_record ReportDraft.decodesMember ReportDraft.answer?_complete? ?_
  refine decodes_firstElement decodes_string? fun path => ?_
  refine decodes_nextElement decodes_natural fun linesScanned => ?_
  refine decodes_nextElement decodes_signed fun finalBalance => ?_
  refine decodes_nextElement (decodes_array TracedLine.decodes_read) fun traces => ?_
  refine decodes_nextElement (decodes_array decodes_natural) fun negativeLines => ?_
  exact decodes_closeArray _

/-- What is read from a text depends on the tree that it says only. -/
theorem toOption_parseJson {tree : JsonTree} {text : Text} (isText : tree.IsText text) :
    (parseJson text).toOption = tree.elements? ofTree? :=
  toOption_readAll (decodes_array decodes_read) (skipsBlanks_array _) isText

end Report

end BraceBalance
