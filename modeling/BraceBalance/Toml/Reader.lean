import BraceBalance.Text.Blank
import BraceBalance.Text.Reader
import BraceBalance.Toml.Table

/-!
# Reading TOML

A reader takes a statement or a value off the front of a text, or finds that the text is
not TOML. Values nest to a limited depth, and keys have a limited number of names. Readers
of repeated parts recurse on a number that bounds their steps; the length of the text is
always enough.
-/

namespace BraceBalance

namespace Toml

open TextReader

namespace Reader

/-- Arrays and inline tables nest less deep than this, and a key has fewer names. -/
def depthLimit : Nat := 80

def skipSpaces : TextReader Unit :=
  skipWhile fun char => char = ' ' || char = '\t'

def takeLineEnd? : TextReader Bool := do
  if ← takeText? "\n" then return true else takeText? "\r\n"

def finishLineEnd : TextReader Unit := do
  unless ← atEnd do
    unless ← takeLineEnd? do failure

/-- The rest of a line after a statement: nothing but a comment. -/
def finishLine : TextReader Unit := do
  skipSpaces
  if ← takeText? "#" then skipWhile Text.isPlain
  finishLineEnd

def skipLines : Nat → TextReader Unit
  | 0 => failure
  | steps + 1 => do
      skipSpaces
      if ← takeText? "#" then
        skipWhile Text.isPlain
        finishLineEnd
        skipLines steps
      else if ← takeLineEnd? then skipLines steps

/-! ## Strings -/

/-- The character of an escape, whose backslash has been taken. -/
def takeEscape : TextReader Char := do
  match ← take with
  | 'b' => return '\x08'
  | 't' => return '\t'
  | 'n' => return '\n'
  | 'f' => return '\x0c'
  | 'r' => return '\r'
  | '"' => return '"'
  | '\\' => return '\\'
  | 'u' => takeCodePoint 4
  | 'U' => takeCodePoint 8
  | _ => failure

/-- The rest of a basic string on one line; the characters read so far come with the
latest first. -/
def basicFrom (read : Text) : Nat → TextReader Text
  | 0 => failure
  | steps + 1 => do
      let char ← take
      if char = '"' then return read.reverse
      else if char = '\\' then basicFrom ((← takeEscape) :: read) steps
      else if Text.isPlain char then basicFrom (char :: read) steps
      else failure

/-- A basic string on one line, whose quotation mark has been taken. -/
def finishBasic : TextReader Text := do
  basicFrom [] ((← get).length + 1)

/-- A literal string on one line, whose apostrophe has been taken. -/
def finishLiteral : TextReader Text := do
  let text ← takeWhile fun char => Text.isPlain char && char ≠ '\''
  takeText "'"
  return text

def skipBlankLines : Nat → TextReader Unit
  | 0 => return
  | steps + 1 => do
      skipSpaces
      if ← takeLineEnd? then skipBlankLines steps

/-- The rest of a string of several lines between marks of three `quote` characters. One
or two of them may stand anywhere in the string, also before the mark at its end. -/
def multilineFrom (quote : Char) (escapes : Bool) (read : Text) : Nat → TextReader Text
  | 0 => failure
  | steps + 1 => do
      let quotes ← takeWhile (· = quote)
      if 6 ≤ quotes.length then failure
      else if 3 ≤ quotes.length then return (quotes.drop 3 ++ read).reverse
      else
        let read := quotes ++ read
        if ← takeLineEnd? then multilineFrom quote escapes ('\n' :: read) steps
        else
          let char ← take
          if char = '\\' && escapes then
            let rest ← get
            skipSpaces
            if ← takeLineEnd? then
              skipBlankLines ((← get).length + 1)
              multilineFrom quote escapes read steps
            else
              set rest
              multilineFrom quote escapes ((← takeEscape) :: read) steps
          else if Text.isPlain char then multilineFrom quote escapes (char :: read) steps
          else failure

/-- A string of several lines, whose first mark has been taken. A line end just after the
mark does not count. -/
def finishMultiline (quote : Char) (escapes : Bool) : TextReader Text := do
  let _ ← takeLineEnd?
  multilineFrom quote escapes [] ((← get).length + 1)

def string : TextReader Text := do
  if ← takeText? "\"\"\"" then finishMultiline '"' true
  else if ← takeText? "\"" then finishBasic
  else if ← takeText? "'''" then finishMultiline '\'' false
  else
    takeText "'"
    finishLiteral

/-! ## Keys -/

/-- A character of a name without quotes. -/
def isBare (char : Char) : Bool :=
  char.isAlphanum || char = '-' || char = '_'

def name : TextReader Text := do
  if ← takeText? "\"" then finishBasic
  else if ← takeText? "'" then finishLiteral
  else
    let bare ← takeWhile isBare
    if bare.isEmpty then failure else return bare

/-- The names of a key, with the latest first after those read so far. -/
def namesFrom (read : List Text) : Nat → TextReader (List Text)
  | 0 => failure
  | steps + 1 => do
      skipSpaces
      let next ← name
      skipSpaces
      if ← takeText? "." then namesFrom (next :: read) steps else return next :: read

def key : TextReader Key := do
  let names ← namesFrom [] ((← get).length + 1)
  if depthLimit ≤ names.length then failure
  match names with
  | last :: before => return ⟨before.reverse, last⟩
  | [] => failure

/-! ## Numbers and dates -/

/-- A run of digits with single underscores between them. -/
def digitsFrom (isDigit : Char → Bool) (read : Text) : Nat → TextReader Text
  | 0 => failure
  | steps + 1 => do
      let read := (← takeWhile isDigit).reverse ++ read
      if read.isEmpty then failure
      if ← takeText? "_" then
        match ← peek? with
        | some next => if isDigit next then digitsFrom isDigit read steps else failure
        | none => failure
      else return read.reverse

/-- Digits with single underscores between them, which do not count. -/
def digits (isDigit : Char → Bool) : TextReader Text := do
  match ← peek? with
  | some first =>
      if isDigit first then digitsFrom isDigit [] ((← get).length + 1) else failure
  | none => failure

/-- Takes a sign, if one follows; a minus says `true`. -/
def sign : TextReader Bool := do
  if ← takeText? "-" then return true
  let _ ← takeText? "+"
  return false

def wholeDigits : TextReader Text := do
  if (← peek?) = some '0' then
    let _ ← take
    return ['0']
  else digits Char.isDigit

/-- An integer, or a number with a fraction or an exponent, in decimal digits. A positive
number may not be too large for a double. -/
def decimal : TextReader Value := do
  let negative ← sign
  if ← takeText? "inf" then return .float (.infinite negative)
  if ← takeText? "nan" then return .float .notANumber
  let whole ← wholeDigits
  let hasFraction ← takeText? "."
  let fraction ← if hasFraction then digits Char.isDigit else pure []
  let mark ← peek?
  let hasExponent := mark = some 'e' || mark = some 'E'
  let exponent ← if hasExponent then do
      let _ ← take
      let below ← sign
      let magnitude : Int := Text.numberOf 10 (← digits Char.isDigit)
      pure (if below then -magnitude else magnitude)
    else pure 0
  if hasFraction || hasExponent then
    let value :=
      Double.ofDecimal negative (Text.numberOf 10 (whole ++ fraction)) (exponent - fraction.length)
    if value = .infinite false then failure else return .float value
  else
    let magnitude : Int := Text.numberOf 10 whole
    let value := if negative then -magnitude else magnitude
    if Text.fitsSigned value then return .integer value else failure

/-- An integer in a base other than ten, whose mark has been taken. -/
def inBase (base : Nat) (isDigit : Char → Bool) : TextReader Value := do
  let value : Int := Text.numberOf base (← digits isDigit)
  if Text.fitsSigned value then return .integer value else failure

def twoDigits (low high : Nat) : TextReader Nat := do
  let tens ← takeIf Char.isDigit
  let ones ← takeIf Char.isDigit
  let value := Text.numberOf 10 [tens, ones]
  if low ≤ value ∧ value ≤ high then return value else failure

def lastDay (year month : Nat) : Nat :=
  let leap := year % 4 = 0 && (year % 100 ≠ 0 || year % 400 = 0)
  if month = 2 then (if leap then 29 else 28)
  else if month = 4 ∨ month = 6 ∨ month = 9 ∨ month = 11 then 30
  else 31

def date : TextReader Unit := do
  let century ← twoDigits 0 99
  let year ← twoDigits 0 99
  takeText "-"
  let month ← twoDigits 1 12
  takeText "-"
  let _ ← twoDigits 1 (lastDay (century * 100 + year) month)

def time : TextReader Unit := do
  let _ ← twoDigits 0 23
  takeText ":"
  let _ ← twoDigits 0 59
  takeText ":"
  let _ ← twoDigits 0 60
  if ← takeText? "." then
    let fraction ← takeWhile Char.isDigit
    if fraction.isEmpty then failure

/-- The distance from universal time, if it follows. -/
def offset? : TextReader Unit := do
  match ← peek? with
  | some 'Z' | some 'z' => let _ ← take
  | some '+' | some '-' =>
      let _ ← take
      let _ ← twoDigits 0 23
      takeText ":"
      let _ ← twoDigits 0 59
  | _ => return

/-- A date, a time, or a date and a time with or without an offset. -/
def datetime : TextReader Value := do
  let start ← get
  (do time) <|> (do
    date
    let afterDate ← get
    (do
      let _ ← takeIf fun char => char = 'T' || char = 't' || char = ' '
      time
      offset?) <|> set afterDate)
  return .datetime (start.take (start.length - (← get).length))

/-- A value that begins with a digit or a sign. -/
def number : TextReader Value :=
  datetime <|> (do
    if ← takeText? "0x" then inBase 16 Text.isHexDigit
    else if ← takeText? "0o" then inBase 8 fun char => '0' ≤ char && char ≤ '7'
    else if ← takeText? "0b" then inBase 2 fun char => char = '0' || char = '1'
    else decimal)

/-! ## Values -/

/-- Repeats a reader between commas until the closing text follows. A comma may stand
before the closing text if `trailing`. -/
def separatedFrom {α : Type} (trailing : Bool) (skip : TextReader Unit) (element : TextReader α)
    (closing : Text) (read : List α) : Nat → TextReader (List α)
  | 0 => failure
  | steps + 1 => do
      skip
      let read := (← element) :: read
      skip
      if ← takeText? closing then return read.reverse
      takeText ","
      if trailing then
        skip
        if ← takeText? closing then return read.reverse
      separatedFrom trailing skip element closing read steps

/-- Any number of elements between commas up to the closing text. -/
def separated {α : Type} (trailing : Bool) (skip : TextReader Unit) (element : TextReader α)
    (closing : Text) : TextReader (List α) := do
  skip
  if ← takeText? closing then return []
  separatedFrom trailing skip element closing [] ((← get).length + 1)

def scalar : TextReader Value := do
  match ← peek? with
  | some '"' | some '\'' => return .string (← string)
  | some 't' => takeText "true"; return .boolean true
  | some 'f' => takeText "false"; return .boolean false
  | some 'i' | some 'n' | some '+' | some '-' => number
  | some char => if char.isDigit then number else failure
  | none => failure

/-- A value in which arrays and inline tables nest no deeper than a limit. -/
def valueWithin : Nat → TextReader Value
  | 0 => scalar
  | depth + 1 => do
      match ← peek? with
      | some '[' =>
          let _ ← take
          return .array (← separated true (do skipLines ((← get).length + 1))
            (valueWithin depth) "]")
      | some '\x7b' =>
          let _ ← take
          let entries ← separated false skipSpaces (do
            let key ← key
            takeText "="
            skipSpaces
            return (key, ← valueWithin depth)) "\x7d"
          Table.ofEntries entries
      | _ => scalar

def value : TextReader Value :=
  valueWithin (depthLimit - 1)

/-- A statement, which is not a blank line or a comment. -/
def statement : TextReader Statement := do
  if ← takeText? "[[" then
    let key ← key
    takeText "]]"
    finishLine
    return .element key
  else if ← takeText? "[" then
    let key ← key
    takeText "]"
    finishLine
    return .table key
  else
    let key ← key
    takeText "="
    skipSpaces
    let value ← value
    finishLine
    return .entry key value

/-- The statements up to the end of the text, with the latest first after those read so
far. -/
def statementsFrom (read : List Statement) : Nat → TextReader (List Statement)
  | 0 => failure
  | steps + 1 => do
      skipLines ((← get).length + 1)
      if ← atEnd then return read.reverse
      statementsFrom ((← statement) :: read) steps

/-- The statements of a document, before which a byte order mark may stand. -/
def statements : TextReader (List Statement) := do
  let _ ← takeText? "\uFEFF"
  statementsFrom [] ((← get).length + 1)

end Reader

/-- The members of the table that a document holds, if the text is TOML. -/
def parse? (text : Text) : Option (List (Text × Value)) := do
  let (statements, _) ← StateT.run Reader.statements text
  membersOfStatements statements

end Toml

end BraceBalance
