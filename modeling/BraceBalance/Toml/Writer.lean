import BraceBalance.Text.Numeral

/-!
# Writing TOML

A string can be written in four forms: between one or three quotation marks, where
escapes count, and between one or three apostrophes, where they do not. The first form in
which the string needs no escapes is taken; if it needs escapes in all forms, those with
a line feed get three quotation marks and the others one. A form of several lines begins
with a line feed, which readers drop, if the string has a line feed itself.
-/

namespace BraceBalance

namespace Toml

/-- A control character that no form holds as itself. -/
def needsEscape (char : Char) : Bool :=
  (char.toNat < 0x20 && char ≠ '\t' && char ≠ '\n') || char.toNat = 0x7F

/-- The length of the longest run of a character, given the length of the run that ends
before the text and the longest so far. -/
def longestRunFrom (wanted : Char) (current longest : Nat) : Text → Nat
  | [] => longest
  | char :: rest =>
      if char = wanted then longestRunFrom wanted (current + 1) (max longest (current + 1)) rest
      else longestRunFrom wanted 0 longest rest

/-- The length of the longest run of a character in a text. -/
def longestRun (wanted : Char) (text : Text) : Nat :=
  longestRunFrom wanted 0 0 text

inductive StringForm where
  /-- Between quotation marks, on one line. -/
  | basic
  /-- Between apostrophes, on one line. -/
  | literal
  /-- Between three quotation marks each. -/
  | multilineBasic
  /-- Between three apostrophes each. -/
  | multilineLiteral
deriving DecidableEq

namespace StringForm

def delimiter : StringForm → Text
  | basic => "\""
  | literal => "'"
  | multilineBasic => "\"\"\""
  | multilineLiteral => "'''"

def isMultiline : StringForm → Bool
  | basic | literal => false
  | multilineBasic | multilineLiteral => true

def choose (text : Text) : StringForm :=
  let control := text.any needsEscape
  let backslash := text.contains '\\'
  let lineFeed := text.contains '\n'
  let quotes := longestRun '"' text
  let apostrophes := longestRun '\'' text
  if !control && !backslash && quotes = 0 && !lineFeed then basic
  else if !control && apostrophes = 0 && !lineFeed then literal
  else if !control && !backslash && quotes ≤ 2 then multilineBasic
  else if !control && apostrophes ≤ 2 then multilineLiteral
  else if lineFeed then multilineBasic
  else basic

end StringForm

/-- A character other than a quotation mark as it stands in a form with escapes. -/
def escapeChar (multiline : Bool) (char : Char) : Text :=
  match char with
  | '\x08' => "\\b"
  | '\t' => "\\t"
  | '\n' => if multiline then "\n" else "\\n"
  | '\x0c' => "\\f"
  | '\r' => "\\r"
  | '\\' => "\\\\"
  | _ =>
      if needsEscape char then "\\u" ++ (Text.ofNatPadded 16 4 char.toNat).asciiUpper
      else [char]

/-- A text as it stands in a form with escapes. Of several lines, the form allows two
quotation marks in a row; `run` counts those just before the text. -/
def escapeFrom (multiline : Bool) (run : Nat) : Text → Text
  | [] => []
  | char :: rest =>
      if char = '"' then
        if run < (if multiline then 2 else 0) then '"' :: escapeFrom multiline (run + 1) rest
        else "\\\"" ++ escapeFrom multiline 0 rest
      else escapeChar multiline char ++ escapeFrom multiline 0 rest

def renderStringIn (form : StringForm) (text : Text) : Text :=
  form.delimiter
    ++ (if form.isMultiline && text.contains '\n' then ['\n'] else [])
    ++ (match form with
      | .basic => escapeFrom false 0 text
      | .multilineBasic => escapeFrom true 0 text
      | .literal | .multilineLiteral => text)
    ++ form.delimiter

def renderString (text : Text) : Text :=
  renderStringIn (StringForm.choose text) text

def renderElement (text : Text) : Text :=
  "    " ++ renderString text ++ ",\n"

/-- An array of strings: on one line if it has no more than one, otherwise with one string
to a line. -/
def renderStrings : List Text → Text
  | [] => "[]"
  | [only] => "[" ++ renderString only ++ "]"
  | strings => "[\n" ++ strings.flatMap renderElement ++ "]"

inductive Scalar where
  | string (value : Text)
  | strings (values : List Text)
  | integer (value : Nat)
  | boolean (value : Bool)

def Scalar.render : Scalar → Text
  | string value => renderString value
  | strings values => renderStrings values
  | integer value => Text.ofNat value
  | boolean true => "true"
  | boolean false => "false"

def renderEntry (entry : Text × Scalar) : Text :=
  entry.1 ++ " = " ++ entry.2.render ++ "\n"

def renderTable (table : Text × List (Text × Scalar)) : Text :=
  "\n[" ++ table.1 ++ "]\n" ++ table.2.flatMap renderEntry

def renderDocument (entries : List (Text × Scalar))
    (tables : List (Text × List (Text × Scalar))) : Text :=
  entries.flatMap renderEntry ++ tables.flatMap renderTable

def Scalar.isWritable : Scalar → Bool
  | integer value => Text.fitsUnsigned value
  | string _ | strings _ | boolean _ => true

/-- The document, if all its integers can be written. -/
def renderDocument? (entries : List (Text × Scalar))
    (tables : List (Text × List (Text × Scalar))) : Option Text :=
  if (entries ++ tables.flatMap (·.2)).all (·.2.isWritable) then
    some (renderDocument entries tables)
  else none

end Toml

end BraceBalance
