import BraceBalance.Text.Basic

/-!
# Lines

A line ends at a line feed, at a carriage return, or at a carriage return that a line
feed follows; the terminator belongs to no line. Text after the last terminator is a
line only if there is some, so the empty text has no lines and a final terminator adds
none.
-/

namespace BraceBalance

namespace Text

/-- The lines of a text, given the finished lines and the characters of the present
line, both with the latest first. -/
def linesFrom (finished : List Text) (current : Text) : Text → List Text
  | [] => if current.isEmpty then finished.reverse else (current.reverse :: finished).reverse
  | '\r' :: '\n' :: rest => linesFrom (current.reverse :: finished) [] rest
  | '\n' :: rest => linesFrom (current.reverse :: finished) [] rest
  | '\r' :: rest => linesFrom (current.reverse :: finished) [] rest
  | char :: rest => linesFrom finished (char :: current) rest

def lines (text : Text) : List Text :=
  linesFrom [] [] text

end Text

end BraceBalance
