import BraceBalance.Text.Numeral

/-!
# JSON values and their layout

A JSON value whose numbers are integers, and its rendering over several lines: each
element and member on a line of its own, two spaces deeper than what holds it, and
nothing between the brackets of an empty array or object.
-/

namespace BraceBalance

/-- A JSON value; its numbers are integers. -/
inductive Json where
  | null
  | bool (value : Bool)
  | number (value : Int)
  | string (value : Text)
  | array (elements : List Json)
  | object (members : List (Text × Json))

namespace Json

/-- A character as it stands in a string: quotes, backslashes and control characters
are escaped, the commonest by a letter and the others by their code. -/
def escapeChar (char : Char) : Text :=
  match char with
  | '"' => "\\\""
  | '\\' => "\\\\"
  | '\x08' => "\\b"
  | '\x0c' => "\\f"
  | '\n' => "\\n"
  | '\r' => "\\r"
  | '\t' => "\\t"
  | _ =>
      if char.toNat < 0x20 then "\\u" ++ Text.ofNatPadded 16 4 char.toNat else [char]

def quote (text : Text) : Text :=
  '"' :: text.flatMap escapeChar ++ "\""

/-- The end of a line and the blanks that lead to a depth. -/
def newline (depth : Nat) : Text :=
  '\n' :: List.replicate (2 * depth) ' '

mutual

/-- A value over several lines, given the depth of the line it begins on. -/
def renderAt (depth : Nat) : Json → Text
  | null => "null"
  | bool true => "true"
  | bool false => "false"
  | number value => Text.ofInt value
  | string value => quote value
  | array [] => "[]"
  | array (first :: rest) =>
      "[" ++ newline (depth + 1) ++ renderAt (depth + 1) first
        ++ renderElements (depth + 1) rest ++ newline depth ++ "]"
  | object [] => "\x7b\x7d"
  | object ((key, value) :: rest) =>
      "\x7b" ++ newline (depth + 1) ++ quote key ++ ": " ++ renderAt (depth + 1) value
        ++ renderMembers (depth + 1) rest ++ newline depth ++ "\x7d"

/-- The elements after the first, each after a comma on a line of its own. -/
def renderElements (depth : Nat) : List Json → Text
  | [] => []
  | element :: rest =>
      "," ++ newline depth ++ renderAt depth element ++ renderElements depth rest

/-- The members after the first, each after a comma on a line of its own. -/
def renderMembers (depth : Nat) : List (Text × Json) → Text
  | [] => []
  | (key, value) :: rest =>
      "," ++ newline depth ++ quote key ++ ": " ++ renderAt depth value
        ++ renderMembers depth rest

end

def render (value : Json) : Text :=
  value.renderAt 0

mutual

/-- The numbers in the value are integers of 64 bits, with or without a sign. -/
def isWritable : Json → Bool
  | number value => Text.minSigned ≤ value && value ≤ Text.maxUnsigned
  | array elements => areWritable elements
  | object members => membersAreWritable members
  | null | bool _ | string _ => true

def areWritable : List Json → Bool
  | [] => true
  | element :: rest => element.isWritable && areWritable rest

def membersAreWritable : List (Text × Json) → Bool
  | [] => true
  | (_, value) :: rest => value.isWritable && membersAreWritable rest

end

/-- The value over several lines, if all its numbers can be written. -/
def render? (value : Json) : Option Text :=
  if value.isWritable then some value.render else none

end Json

end BraceBalance
