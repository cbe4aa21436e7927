import BraceBalance.Proofs.FileTree.Creating
import BraceBalance.Proofs.FileTree.PathSpelling

/-!
# Paths in a tree without links

Where there are no links, a path that never goes up leads to where its names say. Slashes and single
dots between them make no difference, so that paths to one place have the same names. The components
of such paths tell no more than that and whether there is a single dot at the beginning.
-/

namespace BraceBalance

namespace Path

/-- The first component of a path is a single dot. -/
def isDotted (path : Packed) : Bool :=
  (components path).head? = some .here

/-- A relative path without two dots. -/
structure Descends (path : Packed) : Prop where
  relative : isAbsolute path = false
  noParent : Component.parent ∉ components path

instance (path : Packed) : Decidable (Descends path) :=
  decidable_of_iff (isAbsolute path = false ∧ Component.parent ∉ components path)
    ⟨fun ⟨relative, noParent⟩ => ⟨relative, noParent⟩,
      fun descends => ⟨descends.relative, descends.noParent⟩⟩

variable {path other : Packed} {names : List Packed}

theorem components_of_relative (relative : isAbsolute path = false) :
    components path =
      (if isDotted path then [Component.here] else []) ++ (Path.names path).map Component.ofName := by
  have shape : components path = .here :: (Path.names path).map Component.ofName ∨
      components path = (Path.names path).map Component.ofName := by
    simp only [components, relative, Bool.false_eq_true, if_false]
    split
    · exact Or.inl rfl
    · exact Or.inr rfl
  rcases shape with shape | shape
  · have dotted : isDotted path := by simp [isDotted, shape]
    rw [if_pos dotted, shape]
    rfl
  · have notDotted : ¬isDotted path := by
      simp only [isDotted, shape, List.head?_map, decide_eq_true_eq, Option.map_eq_some_iff]
      rintro ⟨name, _, isHere⟩
      exact Component.ofName_ne_here name isHere
    rw [if_neg notDotted, shape]
    rfl

theorem Descends.dots_notMem (descends : Descends path) : (".." : Packed) ∉ Path.names path := by
  intro dotsMem
  apply descends.noParent
  rw [components_of_relative descends.relative, List.mem_append, List.mem_map]
  exact Or.inr ⟨_, dotsMem, Component.ofName_eq_parent_iff.mpr rfl⟩

/-- Descending paths with the same names differ at most in a dot at the beginning. -/
theorem Descends.components_eq (descends : Descends path) (otherDescends : Descends other)
    (sameNames : Path.names path = Path.names other) (sameDot : isDotted path = isDotted other) :
    components path = components other := by
  rw [components_of_relative descends.relative, components_of_relative otherDescends.relative,
    sameNames, sameDot]

theorem Descends.names_eq (descends : Descends path) (otherDescends : Descends other)
    (same : components path = components other) : Path.names path = Path.names other := by
  have sameDot : isDotted path = isDotted other := by rw [isDotted, isDotted, same]
  rw [components_of_relative descends.relative, components_of_relative otherDescends.relative,
    sameDot, List.append_cancel_left_eq] at same
  exact List.map_injective_iff.mpr Component.ofName_injective same

/-- The names of a path are those of its steps that do not stay. -/
theorem filter_steps_isIdle (path : Packed) :
    (steps path).filter (fun name => !isIdle name) = Path.names path := by
  have lastIsIdle : (if endsWithSlash path then [([] : Packed)] else []).filter
      (fun name => !isIdle name) = [] := by
    cases endsWithSlash path <;> rfl
  rw [steps, List.filter_append, lastIsIdle, List.append_nil, List.filter_filter, Path.names]
  apply List.filter_congr
  intro part _
  by_cases isEmpty : part = []
  · simp [isIdle, isEmpty]
  · simp [isIdle, isEmpty]

theorem isDotted_appendNames (nonempty : path ≠ []) (areParts : ∀ name ∈ names, IsPart name) :
    isDotted (appendNames path names) = isDotted path := by
  rw [isDotted, isDotted, components_appendNames nonempty areParts, List.head?_append]
  cases components path with
  | cons component rest => rfl
  | nil =>
      have notHere : (names.map Component.ofName).head? ≠ some .here := by
        rw [List.head?_map]
        intro isHere
        rcases Option.map_eq_some_iff.mp isHere with ⟨name, _, same⟩
        exact Component.ofName_ne_here name same
      simpa using notHere

theorem Descends.appendNames (descends : Descends path) (nonempty : path ≠ [])
    (areParts : ∀ name ∈ names, IsPart name) (noDots : (".." : Packed) ∉ names) :
    Descends (appendNames path names) where
  relative := by rw [isAbsolute_appendNames nonempty areParts, descends.relative]
  noParent := by
    rw [components_appendNames nonempty areParts, List.mem_append, List.mem_map]
    rintro (inPath | ⟨name, nameMem, isParent⟩)
    · exact descends.noParent inPath
    · rw [Component.ofName_eq_parent_iff.mp isParent] at nameMem
      exact noDots nameMem

end Path

namespace FileTree

/-- Nothing in the tree is a link. -/
def IsLinkFree (tree : FileTree) : Prop :=
  ∀ entry ∈ tree.nodes, ∀ target, entry.2 ≠ .link target

namespace IsLinkFree

variable {tree : FileTree}

theorem node?_ne (linkFree : tree.IsLinkFree) (location : Location) (target : Packed) :
    tree.node? location ≠ some (.link target) := by
  intro isLink
  unfold node? at isLink
  split at isLink
  · cases isLink
  · rcases Option.map_eq_some_iff.mp isLink with ⟨entry, found, same⟩
    exact linkFree entry (List.mem_of_find?_eq_some found) target same

/-- Steps that do not go up lead down by those of them that do not stay. -/
theorem eq_of_follow (linkFree : tree.IsLinkFree) {links : Nat} {location place : Location}
    {names : List Packed} {node : FileNode} (noDots : (".." : Packed) ∉ names)
    (reached : tree.follow false links location names = .ok (.found place node)) :
    place = location ++ names.filter fun name => !Path.isIdle name := by
  fun_induction follow tree false links location names
  case case1 =>
    cases reached
    simp
  case case4 links location name rest here _ idle ih =>
    have stays : Path.isIdle name = true := idle
    rw [ih (fun dotsMem => noDots (List.mem_cons_of_mem name dotsMem)) reached,
      List.filter_cons_of_neg (by simp [stays])]
  case case5 => exact absurd List.mem_cons_self noDots
  case case8 target isLink _ _ => exact absurd isLink (linkFree.node?_ne _ target)
  case case9 links location name rest here _ notIdle _ _ held _ stands ih =>
    have moves : Path.isIdle name = false := Bool.eq_false_iff.mpr notIdle
    rw [ih (fun dotsMem => noDots (List.mem_cons_of_mem name dotsMem)) reached,
      List.filter_cons_of_pos (by simp [moves]), List.append_assoc, List.singleton_append]
  all_goals cases reached

end IsLinkFree

end FileTree

/-- A descending path leads from the working directory down by its names. -/
theorem Workspace.eq_of_find? {workspace : Workspace} (linkFree : workspace.tree.IsLinkFree)
    {path : Packed} (descends : Path.Descends path) {place : Location} {node : FileNode}
    (found : workspace.find? path = some (place, node)) :
    place = workspace.directory ++ Path.names path := by
  rw [find?_eq_some_iff, locate, locate_eq_ok_iff, descends.relative] at found
  have noDots : (".." : Packed) ∉ Path.steps path := by
    intro dotsMem
    apply descends.dots_notMem
    rw [← Path.filter_steps_isIdle, List.mem_filter]
    exact ⟨dotsMem, rfl⟩
  rw [linkFree.eq_of_follow noDots found.2, Path.filter_steps_isIdle]
  rfl

end BraceBalance
