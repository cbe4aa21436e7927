import BraceBalance.Ignore.Glob

/-!
# How deep globs nest

A glob is matched as a pattern made of sequences, choices, repetitions and sets of bytes,
each of which may hold further ones. A pattern that nests too deep is refused. How deep a
glob nests is the greatest number of such parts around one place of its pattern; the
whole glob, with its two ends, is always one sequence.
-/

namespace BraceBalance

namespace Ignore

/-- A pattern that nests deeper than this is refused. -/
def nestingLimit : Nat := 250

/-- One more if there are several items, for what holds them together. -/
def holding (items : Nat) : Nat :=
  if items ≤ 1 then 0 else 1

/-- The number of items that a token is in the sequence around it. -/
def Token.itemCount (token : Token) : Nat :=
  match token with
  | .trailingDirectories => 2
  | .alternates _ => if token.isVoid then 0 else 1
  | _ => 1

/-- The number of items that tokens are in one sequence. -/
def itemCount (tokens : List Token) : Nat :=
  tokens.foldr (fun token count => token.itemCount + count) 0

mutual

/-- How deep a token nests. Of a group without a branch that counts nothing is left. -/
def Token.depth : Token → Nat
  | .byte _ => 0
  | .anyByte => 1
  | .anyBytes => 2
  | .leadingDirectories => 4
  | .innerDirectories => 4
  | .trailingDirectories => 1
  | .listed _ ranges => 1 + holding ranges.length
  | .alternates branches =>
      if branchesAreVoid branches then 0
      else 1 + holding (branches.countP (!tokensAreVoid ·)) + depthOfBranches branches

/-- How deep the tokens of one sequence nest below it. -/
def depthOfTokens : List Token → Nat
  | [] => 0
  | token :: rest => max token.depth (depthOfTokens rest)

/-- How deep branches nest; a branch of one item is no sequence. -/
def depthOfBranches : List (List Token) → Nat
  | [] => 0
  | branch :: rest =>
      max (holding (itemCount branch) + depthOfTokens branch) (depthOfBranches rest)

end

def isTooDeep (glob : List Token) : Bool :=
  nestingLimit < 1 + depthOfTokens glob

end Ignore

end BraceBalance
