import BraceBalance.Proofs.Text.Basic

/-!
# Parts of a text

Joining parts and splitting at the separator undo each other, as long as no part holds the separator.
A text that is put together at a separator splits into the parts of both sides.
-/

namespace BraceBalance

namespace Text

variable {α : Type}

theorem splitOn_append_cons [DecidableEq α] (separator : α) (before after : List α) :
    splitOn separator (before ++ separator :: after) =
      splitOn separator before ++ splitOn separator after := by
  induction before with
  | nil => exact splitOn_cons_separator separator after
  | cons char before ih =>
      by_cases same : char = separator
      · subst same
        rw [List.cons_append, splitOn_cons_separator, splitOn_cons_separator, ih, List.cons_append]
      · cases parts : splitOn separator before with
        | nil => exact absurd parts (splitOn_ne_nil separator before)
        | cons part later =>
            have whole : splitOn separator (before ++ separator :: after) =
                part :: (later ++ splitOn separator after) := by
              rw [ih, parts, List.cons_append]
            rw [List.cons_append, splitOn_cons_of_ne same whole, splitOn_cons_of_ne same parts,
              List.cons_append]

theorem join_cons_of_ne_nil (separator first : List α) {rest : List (List α)} (nonempty : rest ≠ []) :
    join separator (first :: rest) = first ++ (separator ++ join separator rest) := by
  cases rest with
  | nil => contradiction
  | cons second rest => simp [join]

theorem join_append (separator : List α) {left right : List (List α)} (leftNonempty : left ≠ [])
    (rightNonempty : right ≠ []) :
    join separator (left ++ right) =
      join separator left ++ (separator ++ join separator right) := by
  induction left with
  | nil => contradiction
  | cons first left ih =>
      by_cases isLast : left = []
      · subst isLast
        simpa [join] using join_cons_of_ne_nil separator first rightNonempty
      · have more : left ++ right ≠ [] := by simp [isLast]
        rw [List.cons_append, join_cons_of_ne_nil separator first more, ih isLast,
          join_cons_of_ne_nil separator first isLast]
        simp

theorem splitOn_join [DecidableEq α] {separator : α} {parts : List (List α)} (nonempty : parts ≠ [])
    (absent : ∀ part ∈ parts, separator ∉ part) :
    splitOn separator (join [separator] parts) = parts := by
  induction parts with
  | nil => contradiction
  | cons part parts ih =>
      have partAbsent := absent part List.mem_cons_self
      by_cases isLast : parts = []
      · subst isLast
        simpa [join] using splitOn_of_not_mem partAbsent
      · have later := ih isLast fun other otherMem => absent other (List.mem_cons_of_mem part otherMem)
        rw [join_cons_of_ne_nil _ _ isLast, List.singleton_append,
          splitOn_append_separator partAbsent, later]

end Text

end BraceBalance
