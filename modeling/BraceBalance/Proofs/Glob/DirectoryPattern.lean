import BraceBalance.Glob.Pattern
import BraceBalance.Proofs.Text.Parts

/-!
# Patterns for directories

The pattern of a directory has its name between two wildcards for directories. The first wildcard
stops only behind a slash or before the whole path, and the name must have a slash behind it, so
that the pattern matches a path exactly if one of the names before the last is that of the
directory. The second wildcard takes whatever is left.
-/

namespace BraceBalance

namespace Glob

/-! ## Matching -/

theorem matchesAll_literals {text path : Text} {others : List (Matcher Char)} :
    matchesAll (text.map (Token.matcher ∘ Token.literal) ++ others) path ↔
      ∃ after, path = text ++ after ∧ matchesAll others after := by
  induction text generalizing path with
  | nil => simp
  | cons char text ih =>
      cases path with
      | nil => simp [matchesAll, Token.matcher, one]
      | cons first path =>
          by_cases same : first = char
          · subst same
            simp [matchesAll, Token.matcher, one, ih]
          · simp [matchesAll, Token.matcher, one, same]

theorem mem_tailsAfter_iff {α : Type} {separates : α → Bool} {list tail : List α} :
    tail ∈ tailsAfter separates list ↔
      ∃ before separator, separates separator ∧ list = before ++ separator :: tail := by
  induction list with
  | nil => simp [tailsAfter]
  | cons first rest ih =>
      have later : tail ∈ tailsAfter separates rest ↔
          ∃ before separator, separates separator ∧
            first :: rest = first :: (before ++ separator :: tail) := by
        simp [ih]
      unfold tailsAfter
      constructor
      · intro tailMem
        split at tailMem
        · rename_i isSeparator
          rcases List.mem_cons.mp tailMem with rfl | laterMem
          · exact ⟨[], first, isSeparator, rfl⟩
          · rcases later.mp laterMem with ⟨before, separator, separates, shape⟩
            exact ⟨first :: before, separator, separates, shape⟩
        · rcases later.mp tailMem with ⟨before, separator, separates, shape⟩
          exact ⟨first :: before, separator, separates, shape⟩
      · rintro ⟨before, separator, isSeparator, shape⟩
        cases before with
        | nil =>
            rw [List.nil_append, List.cons.injEq] at shape
            rcases shape with ⟨rfl, rfl⟩
            simp [isSeparator]
        | cons char before =>
            have sameFirst : char = first := (List.cons.inj shape).1.symm
            subst sameFirst
            have laterMem := later.mpr ⟨before, separator, isSeparator, shape⟩
            split
            · exact List.mem_cons_of_mem _ laterMem
            · exact laterMem

/-- Directories at the end of a pattern match whatever is left. -/
theorem matchesAll_anyDirectories (path : Text) :
    matchesAll [Token.anyDirectories.matcher] path := by
  simp [matchesAll, Token.matcher]

/-- Directories at the beginning of a pattern take nothing, or all up to a slash, or all there is. -/
theorem matchesAll_anyDirectories_cons {others : List (Matcher Char)} {path : Text} :
    matchesAll (Token.anyDirectories.matcher :: others) path ↔
      matchesAll others path ∨
        (∃ before after, path = before ++ '/' :: after ∧ matchesAll others after) ∨
        matchesAll others [] := by
  simp only [matchesAll, Token.matcher, List.any_append, List.any_cons, List.any_nil, Bool.or_false,
    Bool.or_eq_true, List.any_eq_true, mem_tailsAfter_iff, decide_eq_true_eq]
  constructor
  · rintro (⟨whole | ⟨after, ⟨before, _, rfl, shape⟩, rest⟩⟩ | nothing)
    · exact Or.inl whole
    · exact Or.inr (Or.inl ⟨before, after, shape, rest⟩)
    · exact Or.inr (Or.inr nothing)
  · rintro (whole | ⟨before, after, shape, rest⟩ | nothing)
    · exact Or.inl (Or.inl whole)
    · exact Or.inl (Or.inr ⟨after, ⟨before, '/', rfl, shape⟩, rest⟩)
    · exact Or.inr nothing

/-! ## Reading -/

/-- The characters of the name stand for themselves in a pattern. -/
def IsPlain (name : Text) : Prop :=
  ∀ char ∈ name, char ≠ '?' ∧ char ≠ '*' ∧ char ≠ '['

/-- The pattern for what lies below a directory. -/
def directoryPattern (name : Text) : Text :=
  "**/" ++ (name ++ "/**")

def directoryTokens (name : Text) : List Token :=
  .anyDirectories :: ((name ++ ['/']).map .literal ++ [.anyDirectories])

theorem tokensFrom_literal {char : Char} (plain : char ≠ '?' ∧ char ≠ '*' ∧ char ≠ '[')
    (position : Nat) (previous : Option Char) (tokens : List Token) (rest : Text) :
    tokensFrom position previous tokens (char :: rest) =
      tokensFrom (position + 1) (some char) (.literal char :: tokens) rest := by
  rcases plain with ⟨notOne, notStar, notBracket⟩
  rw [tokensFrom] <;> simp_all

theorem tokensFrom_literals {name : Text} (plain : IsPlain name) (position : Nat)
    (previous : Option Char) (tokens : List Token) (rest : Text) :
    ∃ last, tokensFrom position previous tokens (name ++ '/' :: rest) =
      tokensFrom last (some '/') (((name ++ ['/']).map .literal).reverse ++ tokens) rest := by
  induction name generalizing position previous tokens with
  | nil => exact ⟨_, tokensFrom_literal (by decide) position previous tokens rest⟩
  | cons char name ih =>
      have plainLater : IsPlain name := fun other otherMem =>
        plain other (List.mem_cons_of_mem char otherMem)
      rcases ih plainLater (position + 1) (some char) (.literal char :: tokens) with ⟨last, read⟩
      refine ⟨last, ?_⟩
      rw [List.cons_append, tokensFrom_literal (plain char List.mem_cons_self), read]
      simp

theorem tokensFrom_leading (rest : Text) :
    tokensFrom 0 none [] ('*' :: '*' :: '/' :: rest) =
      tokensFrom 3 (some '/') [.anyDirectories] rest := by
  rw [tokensFrom]
  simp [addDirectories]

theorem tokensFrom_trailing (position : Nat) (tokens : List Token) :
    tokensFrom position (some '/') tokens ['*', '*'] = .ok (addDirectories tokens).reverse := by
  rw [tokensFrom]
  simp

theorem parse_directoryPattern {name : Text} (plain : IsPlain name) :
    Pattern.parse (directoryPattern name) = .ok ⟨directoryTokens name⟩ := by
  rcases tokensFrom_literals plain 3 (some '/') [.anyDirectories] ['*', '*'] with ⟨last, read⟩
  have tokens : tokensFrom 0 none [] (directoryPattern name) = .ok (directoryTokens name) := by
    change tokensFrom 0 none [] ('*' :: '*' :: '/' :: (name ++ '/' :: ['*', '*'])) = _
    rw [tokensFrom_leading, read, tokensFrom_trailing]
    simp [addDirectories, directoryTokens]
  rw [Pattern.parse, tokens]
  rfl

/-! ## Directories of a path -/

theorem isMatch_directoryTokens {name path : Text} :
    (Pattern.mk (directoryTokens name)).isMatch path ↔
      ∃ after, path = name ++ '/' :: after ∨
        ∃ before, path = before ++ '/' :: (name ++ '/' :: after) := by
  have behind (path : Text) :
      matchesAll ((name ++ ['/']).map (Token.matcher ∘ Token.literal) ++
        [Token.anyDirectories.matcher]) path ↔ ∃ after, path = name ++ '/' :: after := by
    rw [matchesAll_literals]
    simp [matchesAll_anyDirectories]
  have matchers : (directoryTokens name).map Token.matcher =
      Token.anyDirectories.matcher :: ((name ++ ['/']).map (Token.matcher ∘ Token.literal) ++
        [Token.anyDirectories.matcher]) := by
    simp [directoryTokens]
  rw [Pattern.isMatch, matchers, matchesAll_anyDirectories_cons]
  simp only [behind]
  constructor
  · rintro (⟨after, shape⟩ | ⟨before, _, shape, after, rfl⟩ | ⟨after, impossible⟩)
    · exact ⟨after, Or.inl shape⟩
    · exact ⟨after, Or.inr ⟨before, shape⟩⟩
    · simp at impossible
  · rintro ⟨after, shape | ⟨before, shape⟩⟩
    · exact Or.inl ⟨after, shape⟩
    · exact Or.inr (Or.inl ⟨before, _, shape, after, rfl⟩)

theorem mem_dropLast_iff {α : Type} {element : α} {list : List α} :
    element ∈ list.dropLast ↔ ∃ before after, list = before ++ element :: after ∧ after ≠ [] := by
  constructor
  · intro elementMem
    have nonempty : list ≠ [] := by
      rintro rfl
      simp at elementMem
    rcases List.append_of_mem elementMem with ⟨before, between, shape⟩
    refine ⟨before, between ++ [list.getLast nonempty], ?_, by simp⟩
    have whole := List.dropLast_append_getLast nonempty
    rw [shape] at whole
    simpa using whole.symm
  · rintro ⟨before, after, rfl, more⟩
    simp [List.dropLast_append_of_ne_nil, List.dropLast_cons_of_ne_nil more]

/-- The pattern of a directory matches the paths with a directory of this name on the way. What the
last name is does not matter, nor what the others begin or end with. -/
theorem isMatch_directoryTokens_join {name : Text} (noSlash : '/' ∉ name) {names : List Text}
    (nonempty : names ≠ []) (noSlashes : ∀ other ∈ names, '/' ∉ other) :
    (Pattern.mk (directoryTokens name)).isMatch (Text.join "/" names) ↔ name ∈ names.dropLast := by
  rw [isMatch_directoryTokens, mem_dropLast_iff]
  constructor
  · have split : Text.splitOn '/' (Text.join "/" names) = names :=
      Text.splitOn_join nonempty noSlashes
    rintro ⟨after, shape | ⟨before, shape⟩⟩
    · rw [shape, Text.splitOn_append_separator noSlash] at split
      exact ⟨[], Text.splitOn '/' after, split.symm, Text.splitOn_ne_nil '/' after⟩
    · rw [shape, Text.splitOn_append_cons, Text.splitOn_append_separator noSlash] at split
      exact ⟨_, _, split.symm, Text.splitOn_ne_nil '/' after⟩
  · rintro ⟨before, after, rfl, more⟩
    have behind := Text.join_cons_of_ne_nil "/" name more
    refine ⟨Text.join "/" after, ?_⟩
    by_cases isFirst : before = []
    · left
      rw [isFirst, List.nil_append, behind]
      rfl
    · right
      refine ⟨Text.join "/" before, ?_⟩
      rw [Text.join_append "/" isFirst (List.cons_ne_nil _ _), behind]
      rfl

end Glob

end BraceBalance
