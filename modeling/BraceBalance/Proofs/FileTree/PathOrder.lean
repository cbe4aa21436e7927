import BraceBalance.FileTree.Path
import BraceBalance.Proofs.Text.Order
import Mathlib.Data.List.Sort

/-!
# The order of paths

Paths are compared component by component, like words of which the components are the letters.
Two spellings are equal in this order exactly if they have the same components.
-/

namespace BraceBalance

namespace Component

instance : Std.TransCmp compare where
  eq_swap := by
    intro left right
    cases left <;> cases right <;> try rfl
    rename_i left right
    change Packed.compare left right = (Packed.compare right left).swap
    exact Std.OrientedCmp.eq_swap
  isLE_trans := by
    intro first second third
    cases first <;> cases second <;> cases third <;> simp [compare]
    exact Std.TransCmp.isLE_trans

instance : Std.LawfulEqCmp compare where
  compare_self := by
    intro component
    cases component <;> simp [compare]
  eq_of_compare := by
    intro left right
    cases left <;> cases right <;> simp [compare]

end Component

namespace Path

theorem compareComponents_eq_compareLex :
    compareComponents = List.compareLex Component.compare := by
  funext left right
  induction left generalizing right with
  | nil => cases right <;> rfl
  | cons component left ih =>
      cases right with
      | nil => rfl
      | cons other right =>
          rw [compareComponents, List.compareLex_cons_cons, ih right]
          cases component.compare other <;> rfl

instance : Std.TransCmp compareComponents := by
  rw [compareComponents_eq_compareLex]
  infer_instance

instance : Std.LawfulEqCmp compareComponents := by
  rw [compareComponents_eq_compareLex]
  infer_instance

theorem compare_eq_eq_iff {left right : Packed} :
    compare left right = .eq ↔ components left = components right := by
  rw [compare]
  exact Std.LawfulEqCmp.compare_eq_iff_eq

/-- A path comes before another. -/
def Precedes (left right : Packed) : Prop :=
  compare left right = .lt

theorem Precedes.trans {first second third : Packed} (left : Precedes first second)
    (right : Precedes second third) : Precedes first third := by
  change compareComponents _ _ = .lt at left right ⊢
  exact Std.TransCmp.lt_trans left right

theorem precedes_of_compare_eq_gt {left right : Packed} (greater : compare left right = .gt) :
    Precedes right left := by
  change compareComponents _ _ = .gt at greater
  change compareComponents _ _ = .lt
  exact Std.OrientedCmp.lt_of_gt greater

/-- Lists of paths in order that have the same components are equal but for spelling. -/
theorem components_eq_of_pairwise {paths others : List Packed} (ordered : paths.Pairwise Precedes)
    (othersOrdered : others.Pairwise Precedes)
    (same : ∀ place, place ∈ paths.map components ↔ place ∈ others.map components) :
    paths.map components = others.map components := by
  let before : List Component → List Component → Prop :=
    fun left right => compareComponents left right = .lt
  have asymmetric : Std.Asymm before := ⟨fun _ _ less => Std.OrientedCmp.not_lt_of_lt less⟩
  have left : (paths.map components).Pairwise before := List.pairwise_map.mpr ordered
  have right : (others.map components).Pairwise before := List.pairwise_map.mpr othersOrdered
  exact left.eq_of_mem_iff right same

end Path

end BraceBalance
