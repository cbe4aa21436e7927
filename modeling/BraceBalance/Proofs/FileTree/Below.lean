import BraceBalance.Proofs.FileTree.PathSpelling
import BraceBalance.Proofs.FileTree.Reading
import BraceBalance.Proofs.FileTree.WorkingDirectory
import Mathlib.Data.List.Nodup

/-!
# Below a directory

What lies below a directory is reached by the path of the directory, however that is spelled and
through whatever links it leads, with the names of the entry behind it. Once a path has led to a
directory, the names behind it are followed from there, with the links that are left.
-/

namespace BraceBalance

open Packed (slash)

theorem Path.IsName.isPart {name : Packed} (isName : IsName name) : IsPart name :=
  ⟨isName.notEmpty, isName.notDot, isName.noSlash⟩

instance (name : Packed) : Decidable (Path.IsName name) :=
  decidable_of_iff (name ≠ [] ∧ name ≠ "." ∧ name ≠ ".." ∧ slash ∉ name ∧ 0 ∉ name ∧
      name.length ≤ FileTree.maxNameLength)
    ⟨fun ⟨notEmpty, notDot, notDots, noSlash, noZero, short⟩ =>
        ⟨notEmpty, notDot, notDots, noSlash, noZero, short⟩,
      fun isName => ⟨isName.notEmpty, isName.notDot, isName.notDots, isName.noSlash, isName.noZero,
        isName.short⟩⟩

theorem Path.mem_of_mem_body {path : Packed} {byte : UInt8} (byteMem : byte ∈ body path) :
    byte ∈ path := by
  unfold body at byteMem
  split at byteMem
  · exact List.mem_of_mem_dropLast byteMem
  · exact byteMem

theorem Text.mem_join {α : Type} {separator : List α} {parts : List (List α)} {char : α}
    (charMem : char ∈ join separator parts) : char ∈ separator ∨ ∃ part ∈ parts, char ∈ part := by
  cases parts with
  | nil => contradiction
  | cons first rest =>
      rw [join, List.mem_append, List.mem_flatMap] at charMem
      rcases charMem with inFirst | ⟨part, partMem, inPart⟩
      · exact Or.inr ⟨first, List.mem_cons_self, inFirst⟩
      · rcases List.mem_append.mp inPart with inSeparator | inPart
        · exact Or.inl inSeparator
        · exact Or.inr ⟨part, List.mem_cons_of_mem first partMem, inPart⟩

namespace FileTree

/-- A tree as a system can hold it: a location holds one node, and lies in a directory by a name
that stands for itself. -/
structure IsTree (tree : FileTree) : Prop where
  distinct : (tree.nodes.map Prod.fst).Nodup
  areNames : ∀ entry ∈ tree.nodes, ∀ name ∈ entry.1, Path.IsName name
  notRoot : ∀ entry ∈ tree.nodes, entry.1 ≠ []
  inDirectory : ∀ entry ∈ tree.nodes, tree.node? entry.1.dropLast = some .directory

theorem isDirectory_iff {node : FileNode} : node.isDirectory ↔ node = .directory := by
  cases node <;> simp [FileNode.isDirectory]

instance (tree : FileTree) : Decidable tree.IsTree :=
  decidable_of_iff ((tree.nodes.map Prod.fst).Nodup ∧
      (∀ entry ∈ tree.nodes, ∀ name ∈ entry.1, Path.IsName name) ∧
      (∀ entry ∈ tree.nodes, entry.1 ≠ []) ∧
      ∀ entry ∈ tree.nodes, (tree.node? entry.1.dropLast).any FileNode.isDirectory)
    ⟨fun ⟨distinct, areNames, notRoot, inDirectory⟩ => ⟨distinct, areNames, notRoot,
        fun entry entryMem => by
          simpa [Option.any_eq_true, isDirectory_iff] using inDirectory entry entryMem⟩,
      fun isTree => ⟨isTree.distinct, isTree.areNames, isTree.notRoot,
        fun entry entryMem => by simp [isTree.inDirectory entry entryMem, FileNode.isDirectory]⟩⟩

variable {tree : FileTree} {location directory : Location} {names : List Packed} {node : FileNode}

theorem node?_of_ne_nil (more : location ≠ []) :
    tree.node? location = (tree.nodes.find? (·.1 = location)).map (·.2) :=
  if_neg more

namespace IsTree

theorem mem_nodes_iff (isTree : tree.IsTree) (more : location ≠ []) :
    (location, node) ∈ tree.nodes ↔ tree.node? location = some node := by
  rw [node?_of_ne_nil more]
  constructor
  · intro entryMem
    cases found : tree.nodes.find? (·.1 = location) with
    | none =>
        have absent := List.find?_eq_none.mp found (location, node) entryMem
        simp at absent
    | some entry =>
        have same : entry.1 = location := by simpa using List.find?_some found
        have one : entry = (location, node) := List.inj_on_of_nodup_map isTree.distinct
          (List.mem_of_find?_eq_some found) entryMem same
        rw [one]
        rfl
  · intro stands
    rcases Option.map_eq_some_iff.mp stands with ⟨⟨place, held⟩, found, rfl⟩
    have same : place = location := by simpa using List.find?_some found
    exact same ▸ List.mem_of_find?_eq_some found

theorem mem_below_iff (isTree : tree.IsTree) :
    (names, node) ∈ tree.below directory ↔
      names ≠ [] ∧ tree.node? (directory ++ names) = some node := by
  unfold below
  simp only [List.mem_filterMap, Option.ite_none_right_eq_some, Bool.and_eq_true,
    List.isPrefixOf_iff_prefix, decide_eq_true_eq, Option.some.injEq, Prod.mk.injEq, Prod.exists]
  constructor
  · rintro ⟨place, held, entryMem, ⟨⟨rest, rfl⟩, other⟩, rfl, rfl⟩
    have more : rest ≠ [] := by simpa using other
    rw [List.drop_left]
    exact ⟨more, (isTree.mem_nodes_iff (by simp [more])).mp entryMem⟩
  · rintro ⟨more, stands⟩
    refine ⟨directory ++ names, node, ?_, ⟨List.prefix_append directory names, by simpa using more⟩,
      List.drop_left, rfl⟩
    exact (isTree.mem_nodes_iff (by simp [more])).mpr stands

theorem areNames_below (isTree : tree.IsTree) (stands : tree.node? (directory ++ names) = some node) :
    ∀ name ∈ names, Path.IsName name := by
  intro name nameMem
  have inPlace : name ∈ directory ++ names := List.mem_append_right directory nameMem
  have entryMem := (isTree.mem_nodes_iff (List.ne_nil_of_mem inPlace)).mpr stands
  exact isTree.areNames _ entryMem name inPlace

/-- Above anything there are only directories. -/
theorem node?_above (isTree : tree.IsTree) {above rest : Location} (more : rest ≠ [])
    (stands : tree.node? (above ++ rest) = some node) : tree.node? above = some .directory := by
  induction rest using List.reverseRecOn generalizing node with
  | nil => contradiction
  | append_singleton before last ih =>
      have entryMem := (isTree.mem_nodes_iff (by simp)).mpr stands
      have holds := isTree.inDirectory _ entryMem
      rw [← List.append_assoc, List.dropLast_concat] at holds
      by_cases first : before = []
      · simpa [first] using holds
      · exact ih first holds

theorem node?_above_below (isTree : tree.IsTree) (more : names ≠ [])
    (stands : tree.node? (directory ++ names) = some node) :
    ∀ above, above <+: names.dropLast → tree.node? (directory ++ above) = some .directory := by
  rintro above ⟨rest, split⟩
  have whole : directory ++ names = directory ++ above ++ (rest ++ [names.getLast more]) := by
    rw [← List.append_assoc, List.append_assoc directory, split, List.append_assoc,
      List.dropLast_append_getLast more]
  rw [whole] at stands
  exact isTree.node?_above (by simp) stands

end IsTree

/-! ## Following a path that goes on -/

section Step

variable {links : Nat} {name : Packed} (here : tree.node? location = some .directory)
include here

theorem follow_idle (idle : (name = [] || name = ".") = true) (rest : List Packed) :
    tree.follow false links location (name :: rest) = tree.follow false links location rest := by
  rw [follow, here]
  simp only [Bool.false_and, Bool.false_eq_true, if_false]
  rw [if_pos idle]

theorem follow_parent (rest : List Packed) :
    tree.follow false links location ((".." : Packed) :: rest) =
      tree.follow false links location.dropLast rest := by
  have notIdle : ¬((".." : Packed) = [] || (".." : Packed) = ".") = true := by decide
  rw [follow, here]
  simp only [Bool.false_and, Bool.false_eq_true, if_false]
  rw [if_neg notIdle, if_pos trivial]

/-- A name that stands for itself leads to what stands there, or on from a link. -/
theorem follow_named (notIdle : ¬(name = [] || name = ".") = true) (notParent : name ≠ "..")
    (short : ¬name.length > maxNameLength) (rest : List Packed) :
    tree.follow false links location (name :: rest) =
      match tree.node? (location ++ [name]) with
      | some (.link target) =>
          match links with
          | 0 => .error .tooManyLinks
          | links + 1 =>
              tree.follow false links (if Path.isAbsolute target then [] else location)
                (Path.steps target ++ rest)
      | some _ => tree.follow false links (location ++ [name]) rest
      | none => if rest = [] then .ok (.vacant (location ++ [name])) else .error .notFound := by
  rw [follow, here]
  simp only [Bool.false_and, Bool.false_eq_true, if_false]
  rw [if_neg notIdle, if_neg notParent]
  exact if_neg short

theorem follow_entry (notIdle : ¬(name = [] || name = ".") = true) (notParent : name ≠ "..")
    (short : ¬name.length > maxNameLength) (stands : tree.node? (location ++ [name]) = some node)
    (notLink : ∀ target, node ≠ .link target) (rest : List Packed) :
    tree.follow false links location (name :: rest) =
      tree.follow false links (location ++ [name]) rest := by
  rw [follow_named here notIdle notParent short, stands]
  cases node with
  | link target => exact absurd rfl (notLink target)
  | directory => rfl
  | file body => rfl
  | device body => rfl

end Step

/-- What follows a directory on a path is followed from it, with the links that are left. -/
theorem follow_append_of_directory {links : Nat} {before : List Packed}
    (reached : tree.follow false links location before = .ok (.found directory .directory)) :
    ∃ left, ∀ rest, tree.follow false links location (before ++ rest) =
      tree.follow false left directory rest := by
  fun_induction follow tree false links location before
  case case1 links location node stands =>
    cases reached
    exact ⟨links, fun rest => rfl⟩
  case case4 here _ idle ih =>
    rcases ih reached with ⟨left, on⟩
    refine ⟨left, fun rest => ?_⟩
    rw [List.cons_append, follow_idle here idle, on]
  case case5 here _ _ ih =>
    rcases ih reached with ⟨left, on⟩
    refine ⟨left, fun rest => ?_⟩
    rw [List.cons_append, follow_parent here, on]
  case case8 here _ notIdle notParent short target isLink links ih =>
    rcases ih reached with ⟨left, on⟩
    refine ⟨left, fun rest => ?_⟩
    rw [List.cons_append, follow_named here notIdle notParent short, isLink, ← on, List.append_assoc]
    rfl
  case case9 here _ notIdle notParent short node notLink stands ih =>
    rcases ih reached with ⟨left, on⟩
    refine ⟨left, fun rest => ?_⟩
    rw [List.cons_append, follow_entry here notIdle notParent short stands notLink, on]
  all_goals cases reached

/-- A slash at the end of a path to a directory makes no difference. -/
theorem follow_of_append_empty {links : Nat} {before : List Packed}
    (reached : tree.follow false links location (before ++ [[]]) = .ok (.found directory .directory)) :
    tree.follow false links location before = .ok (.found directory .directory) := by
  fun_induction follow tree false links location before
  case case1 links location node stands =>
    rw [List.nil_append, follow, stands] at reached
    cases node with
    | directory => simpa [follow, stands] using reached
    | link target => cases reached
    | file body => cases reached
    | device body => cases reached
  case case4 here _ idle ih =>
    rw [List.cons_append, follow_idle here idle] at reached
    exact ih reached
  case case5 here _ _ ih =>
    rw [List.cons_append, follow_parent here] at reached
    exact ih reached
  case case7 here _ notIdle notParent short target isLink =>
    rw [List.cons_append, follow_named here notIdle notParent short, isLink] at reached
    cases reached
  case case8 here _ notIdle notParent short target isLink links ih =>
    rw [List.cons_append, follow_named here notIdle notParent short, isLink] at reached
    apply ih
    rw [List.append_assoc]
    exact reached
  case case9 here _ notIdle notParent short node notLink stands ih =>
    rw [List.cons_append, follow_entry here notIdle notParent short stands notLink] at reached
    exact ih reached
  case case10 here notIdle notParent short absent _ =>
    rw [List.cons_append, follow_named here notIdle notParent short, absent] at reached
    cases reached
  case case11 here _ notIdle notParent short absent _ =>
    rw [List.cons_append, follow_named here notIdle notParent short, absent] at reached
    simp at reached
  -- The rest fails before any name is followed.
  all_goals
    simp only [List.nil_append, List.cons_append] at reached
    rw [follow] at reached
    simp_all

/-- Names lead through the directories above an entry to it. -/
theorem IsTree.follow_below (isTree : tree.IsTree) (more : names ≠ [])
    (stands : tree.node? (directory ++ names) = some node) (notLink : ∀ target, node ≠ .link target)
    (links : Nat) :
    tree.follow false links directory names = .ok (.found (directory ++ names) node) := by
  have areNames := isTree.areNames_below stands
  have directories := isTree.node?_above_below more stands
  have last := areNames _ (List.getLast_mem more)
  have whole : directory ++ names.dropLast ++ [names.getLast more] = directory ++ names := by
    rw [List.append_assoc, List.dropLast_append_getLast more]
  have there : tree.node? (directory ++ names.dropLast ++ [names.getLast more]) = some node := by
    rw [whole, stands]
  conv_lhs => rw [← List.dropLast_append_getLast more]
  rw [follow_append (fun name nameMem => areNames name (List.mem_of_mem_dropLast nameMem)) directories,
    follow_entry (directories _ (List.prefix_refl _)) last.not_idle last.notDots
      (Nat.not_lt.mpr last.short) there notLink, whole, follow, stands]

/-- A path is followed to a directory by its steps, and a slash at its end does not count. -/
theorem follow_of_find? {working : Location} {path : Packed}
    (isDirectory : tree.find? working path = some (directory, .directory)) :
    path ≠ [] ∧ 0 ∉ path ∧
      tree.follow false maxLinks (if Path.isAbsolute path then [] else working)
        (Path.leadingSteps path) = .ok (.found directory .directory) := by
  unfold find? locate at isDirectory
  split at isDirectory
  · rename_i place node located
    cases isDirectory
    split at located
    · contradiction
    rename_i noZero
    split at located
    · contradiction
    rename_i nonempty
    split at located
    · contradiction
    refine ⟨by simpa using nonempty, by simpa using noZero, ?_⟩
    rw [Path.steps_eq_leadingSteps] at located
    cases ends : Path.endsWithSlash path with
    | false => simpa [ends] using located
    | true =>
        apply follow_of_append_empty
        simpa [ends] using located
  · contradiction

theorem find?_of_long {working : Location} {path : Packed} (long : maxPathLength ≤ path.length) :
    tree.find? working path = none := by
  unfold find? locate
  split
  · rename_i located
    rw [if_pos long] at located
    split at located
    · contradiction
    split at located <;> contradiction
  · rfl

/-- The names below a directory are followed on from any path that leads to it. -/
theorem find?_appendNames (isTree : tree.IsTree) {working : Location} {root : Packed}
    (isDirectory : tree.find? working root = some (directory, .directory)) (more : names ≠ [])
    (stands : tree.node? (directory ++ names) = some node) (notLink : ∀ target, node ≠ .link target)
    (short : (Path.appendNames root names).length < maxPathLength) :
    tree.find? working (Path.appendNames root names) = some (directory ++ names, node) := by
  rcases follow_of_find? isDirectory with ⟨nonempty, noZero, reached⟩
  rcases follow_append_of_directory reached with ⟨left, on⟩
  have areNames := isTree.areNames_below stands
  have areParts : ∀ name ∈ names, Path.IsPart name := fun name nameMem =>
    (areNames name nameMem).isPart
  have shape := Path.appendNames_eq_body nonempty more areParts
  have noZeroInAll : ¬(Path.appendNames root names).contains 0 = true := by
    rw [shape, List.contains_iff_mem, List.mem_append, List.mem_cons]
    rintro (inRoot | slash | inNames)
    · exact noZero (Path.mem_of_mem_body inRoot)
    · exact absurd slash (by decide)
    · rcases Text.mem_join inNames with slash | ⟨name, nameMem, inName⟩
      · exact absurd slash (by decide)
      · exact (areNames name nameMem).noZero inName
  have arrived : tree.follow false left directory names = .ok (.found (directory ++ names) node) :=
    isTree.follow_below more stands notLink left
  rw [find?, locate, if_neg noZeroInAll, if_neg (by simp [shape]), if_neg (Nat.not_le.mpr short),
    Path.isAbsolute_appendNames nonempty areParts, Path.steps_appendNames nonempty more areParts,
    on, arrived]

end FileTree

end BraceBalance
