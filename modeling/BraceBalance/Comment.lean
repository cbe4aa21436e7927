import BraceBalance.Text.Occurrence

/-!
# Line comments

A comment detector says where the comment of a line begins, if it has one; the rest of
the line is what counts. Offsets are counted in characters and lie inside the line, which
is part of a detector's type.

`quoteParity marker` is a heuristic, not a lexer of string literals. It looks at the
first occurrence of the marker only and takes it for a comment when the text before it
has an even number of unescaped single quotes and an even number of unescaped double
quotes. It keeps nothing from one line to the next, and a quote after two backslashes
counts as escaped.
-/

namespace BraceBalance

/-- The number of quotes of one kind in a text, less those that directly follow a
backslash. -/
def unescapedQuotes (quote : Char) (text : Text) : Nat :=
  text.countOccurrences [quote] - text.countOccurrences ['\\', quote]

/-- A position is outside of string literals, as far as the parity of the quotes before
it tells. -/
def outsideQuotes (before : Text) : Bool :=
  unescapedQuotes '\'' before % 2 = 0 && unescapedQuotes '"' before % 2 = 0

/-- A rule that finds the comment at the end of a line. -/
structure CommentDetector where
  /-- The offset at which the comment of a line begins. -/
  start? : Text → Option Nat
  /-- A comment begins inside its line. -/
  start_le_length : ∀ line offset, start? line = some offset → offset ≤ line.length

namespace CommentDetector

def strip (detector : CommentDetector) (line : Text) : Text :=
  match detector.start? line with
  | some offset => line.take offset
  | none => line

def never : CommentDetector where
  start? _ := none
  start_le_length := by simp

/-- The first marker of a line begins a comment if quote parity puts it outside of string
literals. The empty marker begins none. -/
def quoteParityStart? (marker line : Text) : Option Nat :=
  if marker.isEmpty then none
  else (line.firstOccurrence? marker).filter fun offset => outsideQuotes (line.take offset)

/-- The heuristic detector for comments that begin with `marker`. -/
def quoteParity (marker : Text) : CommentDetector where
  start? := quoteParityStart? marker
  start_le_length := by
    intro line offset found
    simp only [quoteParityStart?] at found
    split at found
    · contradiction
    · exact Text.firstOccurrence?_le_length (Option.filter_eq_some_iff.mp found).1

end CommentDetector

end BraceBalance
