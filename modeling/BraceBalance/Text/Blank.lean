import BraceBalance.Text.Basic

/-!
# White space

Three sets of characters count as blank in different places. `isSpace` is the property
White_Space of Unicode; `isBlank` adds the four ASCII separators U+001C to U+001F and
decides what is trimmed from a line before it is shown; `isAsciiSpace` is the ASCII part
that separates the parts of values and literals. `isPlain` tells the characters that
stand for themselves in strings and comments.
-/

namespace BraceBalance

namespace Text

/-- The Unicode property White_Space. -/
def isSpace (char : Char) : Bool :=
  let code := char.toNat
  (9 ≤ code && code ≤ 13) || code = 0x20 || code = 0x85 || code = 0xA0 || code = 0x1680
    || (0x2000 ≤ code && code ≤ 0x200A) || code = 0x2028 || code = 0x2029
    || code = 0x202F || code = 0x205F || code = 0x3000

/-- White space, or one of the file, group, record and unit separators. -/
def isBlank (char : Char) : Bool :=
  isSpace char || (0x1C ≤ char.toNat && char.toNat ≤ 0x1F)

/-- Tab, line feed, form feed, carriage return or space. -/
def isAsciiSpace (char : Char) : Bool :=
  char = '\t' || char = '\n' || char = '\x0c' || char = '\r' || char = ' '

/-- No control character but the tab. -/
def isPlain (char : Char) : Bool :=
  char = '\t' || (0x20 ≤ char.toNat && char.toNat ≠ 0x7F)

def trim (text : Text) : Text :=
  trimBy isSpace text

/-- Drops what is blank from both ends, as a line is shown in a trace. -/
def trimForDisplay (text : Text) : Text :=
  trimBy isBlank text

end Text

end BraceBalance
