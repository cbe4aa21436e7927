import BraceBalance.Json.Reader
import BraceBalance.Report.Basic

/-!
# Reading reports from JSON

A report and each of its traced lines may be written in two ways: as an object, whose
members come in any order, or as an array of all fields in their order. In an object
every known member may occur once, members with unknown keys are skipped, and `path` may
be left out.
-/

namespace BraceBalance

open JsonReader

/-- The members of a traced line that have been read. -/
structure TraceDraft where
  line : Option Nat := none
  text : Option Text := none
  opens : Option Nat := none
  closes : Option Nat := none
  before : Option Int := none
  after : Option Int := none

namespace TraceDraft

def readMember (key : Text) (draft : TraceDraft) : JsonReader TraceDraft := do
  if key = "line" then return { draft with line := ← once draft.line natural }
  else if key = "text" then return { draft with text := ← once draft.text string }
  else if key = "opens" then return { draft with opens := ← once draft.opens natural }
  else if key = "closes" then return { draft with closes := ← once draft.closes natural }
  else if key = "before" then return { draft with before := ← once draft.before signed }
  else if key = "after" then return { draft with after := ← once draft.after signed }
  else colon; skipValue; return draft

def complete? (draft : TraceDraft) : Option TracedLine := do
  return { line := ← draft.line, text := ← draft.text, opens := ← draft.opens
           closes := ← draft.closes, before := ← draft.before, after := ← draft.after }

end TraceDraft

def TracedLine.read : JsonReader TracedLine := do
  let first ← peekToken
  if first = '\x7b' then
    advance
    match (← members TraceDraft.readMember {}).complete? with
    | some trace => return trace
    | none => throw .unfit
  else if first = '[' then
    advance
    let line ← firstElement natural
    let text ← nextElement string
    let opens ← nextElement natural
    let closes ← nextElement natural
    let before ← nextElement signed
    let after ← nextElement signed
    closeArray
    return { line, text, opens, closes, before, after }
  else refuse first

structure ReportDraft where
  path : Option (Option Text) := none
  linesScanned : Option Nat := none
  finalBalance : Option Int := none
  traces : Option (List TracedLine) := none
  negativeLines : Option (List Nat) := none

namespace ReportDraft

def readMember (key : Text) (draft : ReportDraft) : JsonReader ReportDraft := do
  if key = "path" then return { draft with path := ← once draft.path string? }
  else if key = "lines_scanned" then
    return { draft with linesScanned := ← once draft.linesScanned natural }
  else if key = "final_balance" then
    return { draft with finalBalance := ← once draft.finalBalance signed }
  else if key = "traces" then
    return { draft with traces := ← once draft.traces (array TracedLine.read) }
  else if key = "problematic_lines" then
    return { draft with negativeLines := ← once draft.negativeLines (array natural) }
  else colon; skipValue; return draft

/-- The report, if no member but the path is missing. -/
def complete? (draft : ReportDraft) : Option Report := do
  return { path := draft.path.join.map Packed.ofText, linesScanned := ← draft.linesScanned
           finalBalance := ← draft.finalBalance, traces := ← draft.traces
           negativeLines := ← draft.negativeLines }

end ReportDraft

def Report.read : JsonReader Report := do
  let first ← peekToken
  if first = '\x7b' then
    advance
    match (← members ReportDraft.readMember {}).complete? with
    | some report => return report
    | none => throw .unfit
  else if first = '[' then
    advance
    let path ← firstElement string?
    let linesScanned ← nextElement natural
    let finalBalance ← nextElement signed
    let traces ← nextElement (array TracedLine.read)
    let negativeLines ← nextElement (array natural)
    closeArray
    return { path := path.map Packed.ofText, linesScanned, finalBalance, traces, negativeLines }
  else refuse first

/-- Reads a list of reports from a whole JSON text. -/
def Report.parseJson (text : Text) : Except ReadFailure (List Report) :=
  (array Report.read).readAll text

end BraceBalance
