/-!
# Wildcard matching

A pattern is a sequence of matchers, and each of them says what may be left of an input
after it has matched at the front. A pattern matches an input if its matchers can match
one after the other so that nothing is left.
-/

namespace BraceBalance

namespace Glob

/-- What one part of a pattern may leave of an input. -/
abbrev Matcher (α : Type) := List α → List (List α)

variable {α : Type}

/-- The matchers match one after the other and leave nothing. -/
def matchesAll : List (Matcher α) → List α → Bool
  | [], input => input.isEmpty
  | first :: others, input => (first input).any (matchesAll others)

/-- Every tail of a list, from the whole list to the empty one. -/
def tails : List α → List (List α)
  | [] => [[]]
  | first :: rest => (first :: rest) :: tails rest

/-- What is left after each element that satisfies a predicate. -/
def tailsAfter (separates : α → Bool) : List α → List (List α)
  | [] => []
  | first :: rest =>
      if separates first then rest :: tailsAfter separates rest else tailsAfter separates rest

/-- Every tail that can be reached without passing an element that satisfies a
predicate. -/
def tailsUpTo (separates : α → Bool) : List α → List (List α)
  | [] => [[]]
  | first :: rest =>
      if separates first then [first :: rest]
      else (first :: rest) :: tailsUpTo separates rest

def one (accepts : α → Bool) : Matcher α
  | [] => []
  | first :: rest => if accepts first then [rest] else []

/-- What follows the first element that is not dropped is shorter than the list. -/
theorem length_lt_of_dropWhile_eq_cons {drops : α → Bool} {list rest : List α} {first : α}
    (found : list.dropWhile drops = first :: rest) : rest.length < list.length := by
  have shorter := (List.dropWhile_sublist drops (l := list)).length_le
  rw [found] at shorter
  exact shorter

end Glob

end BraceBalance
