import BraceBalance.Comment
import BraceBalance.Report.Basic
import BraceBalance.Text.Blank
import BraceBalance.Text.Lines

/-!
# The running balance

A text is read line by line. Of each line the part before its comment counts: the
balance grows by the braces it opens and shrinks by the braces it closes. A line with a
brace is traced, and a line after which the balance is negative is noted, whether it
holds a brace or not.
-/

namespace BraceBalance

def openBraces (text : Text) : Nat :=
  text.count '{'

def closeBraces (text : Text) : Nat :=
  text.count '}'

/-- What is known after some lines have been read. Both lists have the latest line
first. -/
structure Progress where
  linesRead : Nat
  /-- Opened less closed braces so far. -/
  balance : Int
  traces : List TracedLine
  /-- The lines so far after which the balance was negative. -/
  negativeLines : List Nat

namespace Progress

def start : Progress := ⟨0, 0, [], []⟩

def readLine (detector : CommentDetector) (progress : Progress) (line : Text) : Progress :=
  let number := progress.linesRead + 1
  let counted := detector.strip line
  let opens := openBraces counted
  let closes := closeBraces counted
  let after := progress.balance + opens - closes
  { linesRead := number
    balance := after
    traces :=
      if opens > 0 ∨ closes > 0 then
        { line := number, text := line.trimForDisplay, opens, closes
          before := progress.balance, after } :: progress.traces
      else progress.traces
    negativeLines :=
      if after < 0 then number :: progress.negativeLines else progress.negativeLines }

/-- The report on a text of which all lines have been read. -/
def report (progress : Progress) : Report where
  path := none
  linesScanned := progress.linesRead
  finalBalance := progress.balance
  traces := progress.traces.reverse
  negativeLines := progress.negativeLines.reverse

end Progress

/-- The report on a text, in which the detector says what is comment. -/
def Report.ofText (detector : CommentDetector) (text : Text) : Report :=
  (text.lines.foldl (Progress.readLine detector) Progress.start).report

end BraceBalance
