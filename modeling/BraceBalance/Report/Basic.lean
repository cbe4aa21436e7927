import BraceBalance.Text.Packed

/-!
# Reports

A report is the result of scanning one text: how many lines it has, the balance of
opening over closing braces at its end, the lines that hold a brace, and the numbers of
the lines after which the balance was negative. An unbalanced text is not an error; its
report says so.
-/

namespace BraceBalance

/-- A line that holds a brace outside of its comment. -/
structure TracedLine where
  /-- The number of the line, from one. -/
  line : Nat
  /-- The whole line with its comment, without the blanks around it. -/
  text : Text
  opens : Nat
  closes : Nat
  before : Int
  after : Int
deriving DecidableEq

/-- Braces of one kind that the text lacks at its end. -/
inductive Imbalance where
  | missingClosing (count : Nat)
  | missingOpening (count : Nat)
deriving DecidableEq

structure Report where
  /-- The file that held the text, if it came from a file. -/
  path : Option Packed
  linesScanned : Nat
  /-- Opened less closed braces of the whole text. -/
  finalBalance : Int
  traces : List TracedLine
  /-- The numbers of the lines after which the balance was negative, in order. -/
  negativeLines : List Nat
deriving DecidableEq

namespace Imbalance

def count : Imbalance → Nat
  | missingClosing count => count
  | missingOpening count => count

def direction : Imbalance → Text
  | missingClosing _ => "closing"
  | missingOpening _ => "opening"

def message (imbalance : Imbalance) : Text :=
  "Missing " ++ Text.ofNat imbalance.count ++ " " ++ imbalance.direction ++ " brace(s)"

end Imbalance

namespace Report

/-- As many braces were opened as closed. -/
def isBalanced (report : Report) : Bool :=
  report.finalBalance = 0

/-- Some line left more braces closed than opened. -/
def wentNegative (report : Report) : Bool :=
  !report.negativeLines.isEmpty

/-- Balanced at the end and negative after no line. -/
def isClean (report : Report) : Bool :=
  report.isBalanced && !report.wentNegative

/-- What is missing at the end of the text, if something is. -/
def imbalance? (report : Report) : Option Imbalance :=
  match report.finalBalance with
  | .ofNat 0 => none
  | .ofNat (excess + 1) => some (.missingClosing (excess + 1))
  | .negSucc deficit => some (.missingOpening (deficit + 1))

def displayName (report : Report) : Text :=
  report.path.elim "<input>" Packed.shown

end Report

end BraceBalance
