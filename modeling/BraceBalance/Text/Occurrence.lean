import BraceBalance.Text.Basic

/-!
# Occurrences of one text in another

`firstOccurrence?` gives the least offset at which a text occurs, and `countOccurrences`
counts occurrences from left to right where each begins after the end of the one before.
-/

namespace BraceBalance

namespace Text

/-- The least offset at which `needle` occurs in the remaining text, counted from
`offset`. -/
def firstOccurrenceFrom? (needle : Text) (offset : Nat) : Text → Option Nat
  | [] => if needle.isEmpty then some offset else none
  | char :: rest =>
      if needle.isPrefixOf (char :: rest) then some offset
      else firstOccurrenceFrom? needle (offset + 1) rest

/-- The least offset at which `needle` occurs in a text. -/
def firstOccurrence? (text needle : Text) : Option Nat :=
  firstOccurrenceFrom? needle 0 text

theorem firstOccurrenceFrom?_bounds {needle : Text} {offset found : Nat} {text : Text}
    (occurs : firstOccurrenceFrom? needle offset text = some found) :
    offset ≤ found ∧ found ≤ offset + text.length := by
  induction text generalizing offset with
  | nil =>
      simp only [firstOccurrenceFrom?] at occurs
      split at occurs <;> simp_all
  | cons char rest inductionHypothesis =>
      simp only [firstOccurrenceFrom?] at occurs
      split at occurs
      · simp only [Option.some.injEq] at occurs
        subst occurs
        simp
      · have bounds := inductionHypothesis occurs
        simp only [List.length_cons]
        omega

theorem firstOccurrence?_le_length {text needle : Text} {found : Nat}
    (occurs : text.firstOccurrence? needle = some found) : found ≤ text.length := by
  have bounds := firstOccurrenceFrom?_bounds occurs
  omega

/-- Adds to `count` the occurrences of `needle` that begin after the next `covered`
characters, which belong to an occurrence counted before. -/
def countOccurrencesFrom (needle : Text) (covered count : Nat) : Text → Nat
  | [] => count
  | char :: rest =>
      match covered with
      | covered + 1 => countOccurrencesFrom needle covered count rest
      | 0 =>
          if needle.isPrefixOf (char :: rest) then
            countOccurrencesFrom needle (needle.length - 1) (count + 1) rest
          else countOccurrencesFrom needle 0 count rest

/-- The number of occurrences of a non-empty `needle` that do not overlap, found from
left to right. -/
def countOccurrences (text needle : Text) : Nat :=
  countOccurrencesFrom needle 0 0 text

end Text

end BraceBalance
