import BraceBalance.Settings.Tree
import BraceBalance.Text.Blank
import BraceBalance.Text.Reader

/-!
# Values in the environment

A variable holds its value in a notation of its own: `true` and `false`, numbers, quoted
strings and characters, lists in brackets and tables in braces, and any other text without
brackets, braces and commas as a string. A text that is not in this notation as a whole is
the string that it is.

Of the text before the first escape of a string only as many bytes are kept as it has
characters. A value that is cut inside a character this way cannot be used at all.
-/

namespace BraceBalance

namespace EnvironmentValue

/-- Why a text is not read as a value. -/
inductive Stop where
  /-- The text is not in the notation. -/
  | malformed
  /-- A string is cut inside a character. -/
  | splitCharacter
deriving DecidableEq

/-- A value reader takes a value off the front of a text, or stops. -/
abbrev ValueReader := StateT Text (Except Stop)

/-- A text reader that fails has met what is not in the notation. -/
instance : MonadLift TextReader ValueReader where
  monadLift reader text := (reader.run text).elim (.error .malformed) .ok

open TextReader

/-- The text up to an unescaped quotation mark, and what follows the mark. -/
def splitQuoted (read : Text) : Text → Option (Text × Text)
  | [] => none
  | '"' :: rest => some (read.reverse, rest)
  | '\\' :: escaped :: rest => splitQuoted (escaped :: '\\' :: read) rest
  | char :: rest => splitQuoted (char :: read) rest

/-- A text with its escapes replaced; the characters so far come with the latest first. -/
def unescapeFrom (read : Text) : Nat → Text → Option Text
  | _, [] => some read.reverse
  | 0, _ => none
  | steps + 1, '\\' :: char :: rest =>
      match char with
      | '"' => unescapeFrom ('"' :: read) steps rest
      | '\\' => unescapeFrom ('\\' :: read) steps rest
      | 'b' => unescapeFrom ('\x08' :: read) steps rest
      | 'f' => unescapeFrom ('\x0c' :: read) steps rest
      | 'n' => unescapeFrom ('\n' :: read) steps rest
      | 'r' => unescapeFrom ('\r' :: read) steps rest
      | 't' => unescapeFrom ('\t' :: read) steps rest
      | 'u' => do
          let (decoded, rest) ← Text.takeCodePoint? 4 rest
          unescapeFrom (decoded :: read) steps rest
      | 'U' => do
          let (decoded, rest) ← Text.takeCodePoint? 8 rest
          unescapeFrom (decoded :: read) steps rest
      | _ => none
  | _, ['\\'] => none
  | steps + 1, char :: rest =>
      if Text.isPlain char then unescapeFrom (char :: read) steps rest else none

/-- The text that stands between quotation marks, with its escapes replaced. -/
def unescape (inside : Text) : Except Stop Text :=
  let (before, rest) := inside.span (· ≠ '\\')
  if !before.all Text.isPlain then .error .malformed
  else if rest.isEmpty then .ok before
  else
    match Text.takeBytes? before.length before with
    | none => .error .splitCharacter
    | some kept => (unescapeFrom kept.reverse (rest.length + 1) rest).elim (.error .malformed) .ok

def quoted : ValueReader Text := do
  takeText "\""
  match splitQuoted [] (← get) with
  | none => throw .malformed
  | some (inside, rest) =>
      set rest
      unescape inside

def character : ValueReader Char := do
  match ← get with
  | '\'' :: char :: '\'' :: rest => set rest; return char
  | _ => throw .malformed

/-- The sign of a number and what follows it; a minus says `true`. -/
def splitSign : Text → Bool × Text
  | '-' :: rest => (true, rest)
  | '+' :: rest => (false, rest)
  | text => (false, text)

def unsigned? (text : Text) : Option Nat :=
  match splitSign text with
  | (true, _) => none
  | (false, digits) => (Text.natural? digits).filter Text.fitsUnsigned

def signed? (text : Text) : Option Int := do
  let (negative, digits) := splitSign text
  let magnitude : Int ← Text.natural? digits
  let value := if negative then -magnitude else magnitude
  if Text.fitsSigned value then some value else none

def exponent? (text : Text) : Option Int := do
  let (negative, digits) := splitSign text
  let magnitude : Int ← Text.natural? digits
  return if negative then -magnitude else magnitude

/-- A decimal number with a point, and with digits before or after it. -/
def float? (text : Text) : Option Double := do
  let (negative, unsigned) := splitSign text
  let (whole, rest) := unsigned.span Char.isDigit
  match rest with
  | '.' :: rest =>
      let (fraction, rest) := rest.span Char.isDigit
      if whole.isEmpty && fraction.isEmpty then none
      let exponent ← match rest with
        | [] => some 0
        | mark :: rest => if mark = 'e' || mark = 'E' then exponent? rest else none
      return Double.ofDecimal negative (Text.numberOf 10 (whole ++ fraction))
        (exponent - fraction.length)
  | _ => none

/-- A value without quotes, brackets or braces: a number if it reads as one. -/
def bare (text : Text) : Scalar :=
  match float? text, unsigned? text, signed? text with
  | some value, _, _ => .float value
  | none, some value, _ => .unsigned value
  | none, none, some value => .signed value
  | none, none, none => .text text

def isSeparator (char : Char) : Bool :=
  char = ',' || char = '\x7b' || char = '\x7d' || char = '[' || char = ']'

def isKeyChar (char : Char) : Bool :=
  char.isAlphanum || char = '_' || char = '-'

def key : ValueReader Text := do
  if (← get).head? = some '"' then quoted
  else
    let bare ← takeWhile isKeyChar
    if bare.isEmpty then throw .malformed else return bare

/-- Repeats a reader up to the closing text. Only directly after the opening text or a
comma may the closing text stand instead of an item. -/
def itemsFrom {α : Type} (item : ValueReader α) (closing : Text) (read : List α) :
    Nat → ValueReader (List α)
  | 0 => throw .malformed
  | steps + 1 => do
      if ← takeText? closing then return read.reverse
      let read := (← item) :: read
      if ← takeText? "," then itemsFrom item closing read steps
      else
        takeText closing
        return read.reverse

/-- A value that holds others no deeper than a limit, and the blanks around it. -/
def valueWithin : Nat → ValueReader Tree
  | 0 => throw .malformed
  | depth + 1 => do
      skipWhile Text.isAsciiSpace
      let value ←
        if ← takeText? "true" then pure (.scalar .environment (.boolean true))
        else
          -- A line of its own: after `else` this text would be read before the other is tested.
          if ← takeText? "false" then pure (.scalar .environment (.boolean false))
          else match (← get).head? with
            | some '\x7b' => do
                takeText "\x7b"
                let members ← itemsFrom (member depth) "\x7d" [] ((← get).length + 1)
                pure (.table .environment (Layer.ofList members))
            | some '[' => do
                takeText "["
                let elements ← itemsFrom (valueWithin depth) "]" [] ((← get).length + 1)
                pure (.sequence .environment elements)
            | some '"' => do pure (.scalar .environment (.text (← quoted)))
            | some '\'' => do pure (.scalar .environment (.character (← character)))
            | _ => do
                let text ← takeWhile fun char => !isSeparator char
                pure (.scalar .environment (bare text.trim))
      skipWhile Text.isAsciiSpace
      return value
where
  member (depth : Nat) : ValueReader (Text × Tree) := do
    skipWhile Text.isAsciiSpace
    let key ← key
    skipWhile Text.isAsciiSpace
    takeText "="
    skipWhile Text.isAsciiSpace
    return (key, ← valueWithin depth)

/-- The value that a variable holds, if it can be used. -/
def parse? (text : Text) : Option Tree :=
  match StateT.run (valueWithin (text.length + 1)) text with
  | .ok (value, []) => some value
  | .error .splitCharacter => none
  | _ => some (.scalar .environment (.text text))

end EnvironmentValue

end BraceBalance
