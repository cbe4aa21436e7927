import BraceBalance.Text.Numeral

/-!
# Readers

A reader takes something off the front of a text, or fails. A choice between two readers
starts the second where the first did.
-/

namespace BraceBalance

/-- A reader takes something off the front of a text. -/
abbrev TextReader := StateT Text Option

namespace TextReader

/-- The next character, left where it is. -/
def peek? : TextReader (Option Char) :=
  return (← get).head?

def atEnd : TextReader Bool :=
  return (← get).isEmpty

def take : TextReader Char := do
  match ← get with
  | [] => failure
  | char :: rest => set rest; return char

def takeIf (accepts : Char → Bool) : TextReader Char := do
  let char ← take
  if accepts char then return char else failure

/-- Takes the longest run of characters that satisfy a predicate. -/
def takeWhile (accepts : Char → Bool) : TextReader Text := do
  let (run, rest) := (← get).span accepts
  set rest
  return run

/-- Drops the longest run of characters that satisfy a predicate. -/
def skipWhile (drops : Char → Bool) : TextReader Unit :=
  modify (List.dropWhile drops)

/-- Takes a given text if it follows, and says so. -/
def takeText? (wanted : Text) : TextReader Bool := do
  match Text.dropBeginning? (← get) wanted with
  | some rest => set rest; return true
  | none => return false

def takeText (wanted : Text) : TextReader Unit := do
  if ← takeText? wanted then return else failure

/-- Takes the character whose code point follows in a number of hexadecimal digits. -/
def takeCodePoint (count : Nat) : TextReader Char := do
  match Text.takeCodePoint? count (← get) with
  | some (char, rest) => set rest; return char
  | none => failure

end TextReader

end BraceBalance
