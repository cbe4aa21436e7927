import BraceBalance.Glob.Basic
import BraceBalance.Text.Basic

/-!
# Exclude patterns

An exclude pattern is matched against the path of a file below the directory that is
walked. `?` stands for any one character and `*` for any number of them, slashes
included; `[…]` stands for one of the characters and ranges listed, and `[!…]` for any
other. `**` must fill a whole component of the pattern and stands for any number of
directories.
-/

namespace BraceBalance

namespace Glob

/-- A character or a range of characters listed in brackets. -/
inductive Listed where
  | single (char : Char)
  | range (low high : Char)
deriving DecidableEq

def Listed.holds (char : Char) : Listed → Bool
  | single listed => char = listed
  | range low high => low ≤ char && char ≤ high

/-- One part of an exclude pattern. -/
inductive Token where
  | literal (char : Char)
  /-- `?`: any character. -/
  | anyChar
  /-- `*`: any number of characters. -/
  | anySequence
  /-- `**`: any number of directories. -/
  | anyDirectories
  /-- `[…]`: a character that is listed. -/
  | within (listed : List Listed)
  /-- `[!…]`: a character that is not listed. -/
  | outside (listed : List Listed)
deriving DecidableEq

/-- What a token may leave of a path. Directories end at a slash; at the end of a pattern
they may also take all that is left. -/
def Token.matcher : Token → Matcher Char
  | literal char => one (· = char)
  | anyChar => one fun _ => true
  | anySequence => tails
  | anyDirectories => fun path => path :: tailsAfter (· = '/') path ++ [[]]
  | within listed => one fun char => listed.any (Listed.holds char)
  | outside listed => one fun char => !listed.any (Listed.holds char)

inductive PatternFault where
  /-- More than two stars stand together. -/
  | wildcards
  /-- Two stars stand together and do not fill a component. -/
  | directories
  /-- A bracket does not begin a list of characters. -/
  | brackets
deriving DecidableEq

def PatternFault.message : PatternFault → Text
  | wildcards => "wildcards are either regular `*` or recursive `**`"
  | directories => "recursive wildcards must form a single path component"
  | brackets => "invalid range pattern"

/-- A pattern that cannot be read, and the offset of its fault in characters. -/
structure PatternError where
  position : Nat
  fault : PatternFault
deriving DecidableEq

def PatternError.message (error : PatternError) : Text :=
  "Pattern syntax error near position " ++ Text.ofNat error.position ++ ": "
    ++ error.fault.message

def listedOf : Text → List Listed
  | low :: '-' :: high :: rest => .range low high :: listedOf rest
  | char :: rest => .single char :: listedOf rest
  | [] => []

/-- Adds a token for directories, unless the pattern so far has several tokens and ends
with one. Tokens come with the latest first. -/
def addDirectories (tokens : List Token) : List Token :=
  if tokens.length > 1 ∧ tokens.head? = some .anyDirectories then tokens
  else .anyDirectories :: tokens

/-- The tokens of a pattern, given the offset of the rest of it, the character before
that, and the tokens so far with the latest first. -/
def tokensFrom (position : Nat) (previous : Option Char) (tokens : List Token) :
    Text → Except PatternError (List Token)
  | [] => .ok tokens.reverse
  | '?' :: rest => tokensFrom (position + 1) (some '?') (.anyChar :: tokens) rest
  | '*' :: '*' :: '*' :: _ => .error ⟨position + 2, .wildcards⟩
  | '*' :: '*' :: rest =>
      if previous ≠ none ∧ previous ≠ some '/' then .error ⟨position - 1, .directories⟩
      else match rest with
        | [] => .ok (addDirectories tokens).reverse
        | '/' :: rest => tokensFrom (position + 3) (some '/') (addDirectories tokens) rest
        | _ :: _ => .error ⟨position + 2, .directories⟩
  | '*' :: rest => tokensFrom (position + 1) (some '*') (.anySequence :: tokens) rest
  | '[' :: '!' :: first :: rest =>
      match h : rest.dropWhile (· ≠ ']') with
      | [] => .error ⟨position, .brackets⟩
      | _ :: after =>
          have : after.length < rest.length := length_lt_of_dropWhile_eq_cons h
          let inside := rest.takeWhile (· ≠ ']')
          tokensFrom (position + inside.length + 4) (some ']')
            (.outside (listedOf (first :: inside)) :: tokens) after
  | '[' :: '!' :: [] => .error ⟨position, .brackets⟩
  | '[' :: first :: rest =>
      match h : rest.dropWhile (· ≠ ']') with
      | [] => .error ⟨position, .brackets⟩
      | _ :: after =>
          have : after.length < rest.length := length_lt_of_dropWhile_eq_cons h
          let inside := rest.takeWhile (· ≠ ']')
          tokensFrom (position + inside.length + 3) (some ']')
            (.within (listedOf (first :: inside)) :: tokens) after
  | '[' :: [] => .error ⟨position, .brackets⟩
  | char :: rest => tokensFrom (position + 1) (some char) (.literal char :: tokens) rest
termination_by text => text.length

structure Pattern where
  tokens : List Token
deriving DecidableEq

namespace Pattern

def parse (text : Text) : Except PatternError Pattern :=
  (tokensFrom 0 none [] text).map Pattern.mk

def isMatch (pattern : Pattern) (path : Text) : Bool :=
  matchesAll (pattern.tokens.map Token.matcher) path

end Pattern

end Glob

end BraceBalance
