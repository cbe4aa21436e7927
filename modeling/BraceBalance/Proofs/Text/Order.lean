import BraceBalance.Text.Packed
import Mathlib.Data.Char
import Mathlib.Order.Compare

/-!
# The order of texts

Texts are compared like words in a dictionary, and so are packed texts. The comparison is the
lexicographic one of lists, so that it is an order, and only equal texts compare as equal.
-/

namespace BraceBalance

namespace Text

theorem compare_eq_compareLex (left right : Text) :
    compare left right = List.compareLex Ord.compare left right := by
  induction left generalizing right with
  | nil => cases right <;> rfl
  | cons char left ih =>
      cases right with
      | nil => rfl
      | cons other right =>
          rw [compare, List.compareLex_cons_cons, ih right]
          rcases lt_trichotomy char other with less | rfl | greater
          · simp [less, compare_lt_iff_lt.mpr less]
          · simp
          · simp [greater, not_lt_of_gt greater, compare_gt_iff_gt.mpr greater]

instance : Std.TransCmp compare := by
  have same : compare = List.compareLex Ord.compare :=
    funext fun left => funext fun right => compare_eq_compareLex left right
  rw [same]
  infer_instance

instance : Std.LawfulEqCmp compare := by
  have same : compare = List.compareLex Ord.compare :=
    funext fun left => funext fun right => compare_eq_compareLex left right
  rw [same]
  infer_instance

end Text

namespace Packed

instance : Std.TransCmp compare :=
  inferInstanceAs (Std.TransCmp (List.compareLex (Ord.compare (α := UInt8))))

instance : Std.LawfulEqCmp compare :=
  inferInstanceAs (Std.LawfulEqCmp (List.compareLex (Ord.compare (α := UInt8))))

end Packed

end BraceBalance
