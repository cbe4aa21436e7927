import BraceBalance.Ignore.Nesting
import BraceBalance.Text.Blank

/-!
# Ignore rules

An ignore file has one rule a line. A rule ignores the paths that its glob matches, or
keeps them if it begins with an exclamation mark. A rule that ends with a slash is for
directories only. A glob without a slash inside matches names in every directory below the
file; any other is matched from the directory of the file. Of the rules that match a path
the last counts.
-/

namespace BraceBalance

namespace Ignore

inductive Verdict where
  | ignored
  | kept
deriving DecidableEq

structure Rule where
  glob : List Token
  verdict : Verdict
  directoriesOnly : Bool

/-- The text begins with `!` or `#` after a backslash, which takes the mark as it is. -/
def escapesMark (line : Text) : Bool :=
  "\\!".toList.isPrefixOf line || "\\#".toList.isPrefixOf line

/-- The text without white space at its end, unless it ends with an escaped space. -/
def trimLine (line : Text) : Text :=
  if "\\ ".toList.isSuffixOf line then line else line.dropEndWhile Text.isSpace

/-- The glob as it is matched: one without a slash matches at any depth, and what lies
below a directory does not include the directory. -/
def completeGlob (anchored : Bool) (glob : Text) : Text :=
  let placed : Text :=
    if !anchored && !glob.contains '/' && glob ≠ "**" then "**/" ++ glob else glob
  if "/**".toList.isSuffixOf placed then placed ++ "/*" else placed

/-- The rule of a line. Comments, empty lines and lines with a glob that cannot be read
have none. -/
def Rule.ofLine? (line : Text) : Option Rule :=
  if line.head? = some '#' then none
  else
    let line := trimLine line
    if line.isEmpty then none
    else
      let (verdict, anchored, body) : Verdict × Bool × Text :=
        if escapesMark line then (.ignored, false, line.tail)
        else
          let (verdict, rest) : Verdict × Text :=
            if line.head? = some '!' then (.kept, line.tail) else (.ignored, line)
          if rest.head? = some '/' then (verdict, true, rest.tail) else (verdict, false, rest)
      let directoriesOnly := body.getLast? = some '/'
      let body :=
        if directoriesOnly then
          let body := body.dropLast
          if body.getLast? = some '\\' then body.dropLast else body
        else body
      (parseGlob? (completeGlob anchored body)).map (⟨·, verdict, directoriesOnly⟩)

/-- The rule applies to a path, which is that of a directory or not. -/
def Rule.applies (rule : Rule) (path : Packed) (isDirectory : Bool) : Bool :=
  (!rule.directoriesOnly || isDirectory) && matchesPath rule.glob path

/-- What rules say of a path, if they say something. -/
def verdict? (rules : List Rule) (path : Packed) (isDirectory : Bool) : Option Verdict :=
  (rules.reverse.find? fun rule => rule.applies path isDirectory).map Rule.verdict

/-- The lines of a file in bytes, without their ends. -/
def byteLines (bytes : ByteArray) : List (List UInt8) :=
  let (lines, current) := bytes.toList.foldl
    (fun (lines, current) byte =>
      if byte = 10 then
        (match current with
          | 13 :: before => (before.reverse :: lines, [])
          | _ => (current.reverse :: lines, []))
      else (lines, byte :: current))
    (([], []) : List (List UInt8) × List UInt8)
  (if current.isEmpty then lines else current.reverse :: lines).reverse

/-- The rules of the lines up to the first that is not UTF-8. -/
def rulesOfLines : List (List UInt8) → List Rule
  | [] => []
  | bytes :: rest =>
      match Text.ofBytes? ⟨bytes.toArray⟩ with
      | none => []
      | some line => (Rule.ofLine? line).toList ++ rulesOfLines rest

/-- The bytes without byte order marks in front. -/
def dropByteOrderMarks : List UInt8 → List UInt8
  | 0xEF :: 0xBB :: 0xBF :: rest => dropByteOrderMarks rest
  | bytes => bytes

/-- The rules of a file. Byte order marks in front do not count. A file with a glob that
nests too deep has no rules at all. -/
def rulesOfFile (content : ByteArray) : List Rule :=
  match byteLines content with
  | [] => []
  | first :: rest =>
      let rules := rulesOfLines (dropByteOrderMarks first :: rest)
      if rules.any fun rule => isTooDeep rule.glob then [] else rules

end Ignore

end BraceBalance
