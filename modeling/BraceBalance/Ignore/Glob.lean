import BraceBalance.Glob.Basic
import BraceBalance.Text.Packed

/-!
# Globs of ignore files

A glob of an ignore file is matched against the bytes of a path. `?` stands for one byte
other than a slash and `*` for any number of them; `[…]` stands for a byte that is listed,
or with `!` or `^` in front for one that is not; `{…,…}` stands for one of several globs; a
backslash takes the character after it as it is. `**` that fills a component stands for
any number of directories, and two other stars in a row are like one.

A bracket that is never closed stands for itself, and so do all brackets after it.
-/

namespace BraceBalance

namespace Ignore

open Glob
open Packed (slash)

/-- One part of a glob. -/
inductive Token where
  /-- The byte itself. -/
  | byte (value : UInt8)
  /-- `?`: a byte other than a slash. -/
  | anyByte
  /-- `*`: bytes other than slashes. -/
  | anyBytes
  /-- `**/` at the beginning. -/
  | leadingDirectories
  /-- `/**/` -/
  | innerDirectories
  /-- `/**` at the end. -/
  | trailingDirectories
  /-- `[…]`: a byte in one of the ranges, or in none if `negated`. -/
  | listed (negated : Bool) (ranges : List (UInt8 × UInt8))
  /-- `{…}`: one of several globs. -/
  | alternates (branches : List (List Token))

/-- A glob that matches nothing else but a slash and what follows it. -/
def afterSlash (next : Matcher UInt8) : Matcher UInt8
  | [] => []
  | first :: rest => if first = slash then next rest else []

mutual

/-- The token stands for nothing: a group in which no branch counts. -/
def Token.isVoid : Token → Bool
  | .alternates branches => branchesAreVoid branches
  | _ => false

def tokensAreVoid : List Token → Bool
  | [] => true
  | token :: rest => token.isVoid && tokensAreVoid rest

/-- None of several globs counts: each stands for nothing. -/
def branchesAreVoid : List (List Token) → Bool
  | [] => true
  | branch :: rest => tokensAreVoid branch && branchesAreVoid rest

end

mutual

def Token.matcher : Token → Matcher UInt8
  | .byte value => one (· = value)
  | .anyByte => one (· ≠ slash)
  | .anyBytes => tailsUpTo (· = slash)
  | .leadingDirectories => fun path => path :: tailsAfter (· = slash) path
  | .innerDirectories => afterSlash fun path => path :: tailsAfter (· = slash) path
  | .trailingDirectories => afterSlash tails
  | .listed negated ranges =>
      one fun byte => negated != ranges.any fun range => range.1 ≤ byte && byte ≤ range.2
  | .alternates branches =>
      if branchesAreVoid branches then fun path => [path] else matcherOfBranches branches

/-- What tokens one after the other may leave of a path. -/
def matcherOfTokens : List Token → Matcher UInt8
  | [] => fun path => [path]
  | token :: rest => fun path => (token.matcher path).flatMap (matcherOfTokens rest)

/-- What one of several globs may leave of a path; a glob that stands for nothing does not
count. -/
def matcherOfBranches : List (List Token) → Matcher UInt8
  | [] => fun _ => []
  | branch :: rest => fun path =>
      (if tokensAreVoid branch then [] else matcherOfTokens branch path)
        ++ matcherOfBranches rest path

end

/-- The tokens match a whole path. Directories alone match every path. -/
def matchesPath (tokens : List Token) (path : Packed) : Bool :=
  match tokens with
  | [.leadingDirectories] => true
  | _ => (matcherOfTokens tokens path).any List.isEmpty

/-! ## Reading globs -/

/-- The bytes of a character. -/
def bytesOf (char : Char) : Packed :=
  Packed.ofText [char]

/-- The tokens of a character that stands for itself, with the last byte first. -/
def literal (char : Char) : List Token :=
  (bytesOf char).reverse.map .byte

/-- The byte ranges of a range of characters: the last byte of its low end to the first
of its high end, and all other bytes of both alone. -/
def byteRanges (low high : Char) : List (UInt8 × UInt8) :=
  let single (byte : UInt8) : UInt8 × UInt8 := (byte, byte)
  if low = high then (bytesOf low).map single
  else
    match (bytesOf low).getLast?, bytesOf high with
    | some last, first :: others =>
        (bytesOf low).dropLast.map single ++ (last, first) :: others.map single
    | _, _ => []

/-- Why a list in brackets cannot be read. -/
inductive ListFault where
  | unclosed
  /-- The ends of a range are in the wrong order. -/
  | invertedRange

/-- The character ranges of a list in brackets and what follows it. The ranges so far
come with the latest first; `inRange` says that a hyphen stands after the latest. -/
def rangesFrom (ranges : List (Char × Char)) (inRange : Bool) :
    Text → Except ListFault (List (Char × Char) × Text)
  | [] => .error .unclosed
  | char :: rest =>
      match ranges with
      | [] => rangesFrom [(char, char)] false rest
      | (low, high) :: before =>
          if char = ']' then
            .ok ((if inRange then ('-', '-') :: ranges else ranges).reverse, rest)
          else if inRange then
            if char < low then .error .invertedRange
            else rangesFrom ((low, char) :: before) false rest
          else if char = '-' then rangesFrom ((low, high) :: before) true rest
          else rangesFrom ((char, char) :: (low, high) :: before) false rest

/-- The token of a list in brackets, whose opening bracket has been read, and what
follows it. -/
def listed? (text : Text) : Except ListFault (Token × Text) := do
  let (negated, inside) :=
    match text with
    | '!' :: rest | '^' :: rest => (true, rest)
    | _ => (false, text)
  let (ranges, rest) ← rangesFrom [] false inside
  return (.listed negated (ranges.flatMap fun range => byteRanges range.1 range.2), rest)

/-- An open group of alternatives: the tokens before it and its finished branches, both
with the latest first. -/
structure Group where
  before : List Token
  branches : List (List Token)

structure GlobDraft where
  /-- The tokens of the present branch, with the latest first. -/
  tokens : List Token
  /-- The open groups, with the innermost first. -/
  groups : List Group
  previous : Option Char
  hasUnclosed : Bool

namespace GlobDraft

def push (draft : GlobDraft) (tokens : List Token) (previous : Char) : GlobDraft :=
  { draft with tokens := tokens ++ draft.tokens, previous := some previous }

/-- Two stars may fill a component after the character read last: after a slash, or in a
group after a mark of groups, which then has been read as it is. -/
def mayBeginComponent (draft : GlobDraft) : Bool :=
  draft.previous = some '/'
    || !draft.groups.isEmpty && (draft.previous = some ',' || draft.previous = some '\x7b')

/-- Adds two stars that fill a component: they take what stands before them, and belong
together with directories that stand there already. -/
def pushDirectories (draft : GlobDraft) (atEnd : Bool) : GlobDraft :=
  let previous := if atEnd then '*' else '/'
  match draft.tokens with
  | .leadingDirectories :: before =>
      { draft with tokens := .leadingDirectories :: before, previous := some previous }
  | .trailingDirectories :: before =>
      { draft with tokens := .trailingDirectories :: before, previous := some previous }
  | tokens =>
      let token := if atEnd then Token.trailingDirectories else .innerDirectories
      { draft with tokens := token :: tokens.tail, previous := some previous }

/-- Adds two stars, given what follows them, and gives what follows after that. -/
def pushStars (draft : GlobDraft) (rest : Text) : GlobDraft × Text :=
  let plain := (draft.push [.anyBytes, .anyBytes] '*', rest)
  if draft.tokens.isEmpty then
    match rest with
    | [] => (draft.push [.leadingDirectories] '*', [])
    | '/' :: rest => (draft.push [.leadingDirectories] '/', rest)
    | _ => plain
  else if !draft.mayBeginComponent then plain
  else
    match rest with
    | [] => (draft.pushDirectories true, [])
    | '/' :: rest => (draft.pushDirectories false, rest)
    | next :: _ =>
        if (next = ',' || next = '\x7d') && !draft.groups.isEmpty then
          (draft.pushDirectories true, rest)
        else plain

def openGroup (draft : GlobDraft) : GlobDraft :=
  { draft with
    tokens := []
    groups := ⟨draft.tokens, []⟩ :: draft.groups
    previous := some '\x7b' }

/-- Adds a comma. In a group it ends a branch, and elsewhere it stands for itself. -/
def pushComma (draft : GlobDraft) : GlobDraft :=
  match draft.groups with
  | [] => draft.push (literal ',') ','
  | group :: outer =>
      { draft with
        tokens := []
        groups := ⟨group.before, draft.tokens :: group.branches⟩ :: outer
        previous := some ',' }

def closeGroup? (draft : GlobDraft) : Option GlobDraft :=
  match draft.groups with
  | [] => none
  | group :: outer =>
      let branches := (draft.tokens :: group.branches).reverse.map List.reverse
      some { draft with
        tokens := .alternates branches :: group.before
        groups := outer
        previous := some '\x7d' }

end GlobDraft

/-- Reads the rest of a glob in a number of steps. -/
def readGlob (draft : GlobDraft) : Nat → Text → Option (List Token)
  | _, [] => if draft.groups.isEmpty then some draft.tokens.reverse else none
  | 0, _ => none
  | steps + 1, char :: rest =>
      match char with
      | '?' => readGlob (draft.push [.anyByte] char) steps rest
      | '*' =>
          match rest with
          | '*' :: rest =>
              let (draft, rest) := draft.pushStars rest
              readGlob draft steps rest
          | _ => readGlob (draft.push [.anyBytes] char) steps rest
      | '[' =>
          if draft.hasUnclosed then readGlob (draft.push (literal char) char) steps rest
          else
            match listed? rest with
            | .ok (token, rest) => readGlob (draft.push [token] ']') steps rest
            | .error .unclosed =>
                readGlob { draft.push (literal char) char with hasUnclosed := true } steps rest
            | .error .invertedRange => none
      | '\x7b' => readGlob draft.openGroup steps rest
      | '\x7d' => do readGlob (← draft.closeGroup?) steps rest
      | ',' => readGlob draft.pushComma steps rest
      | '\\' =>
          match rest with
          | [] => none
          | escaped :: rest => readGlob (draft.push (literal escaped) escaped) steps rest
      | _ => readGlob (draft.push (literal char) char) steps rest

/-- The tokens of a glob, if it can be read. -/
def parseGlob? (text : Text) : Option (List Token) :=
  readGlob ⟨[], [], none, false⟩ (text.length + 1) text

end Ignore

end BraceBalance
