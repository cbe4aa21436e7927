import BraceBalance.Proofs.FileTree.Growth
import BraceBalance.Settings.Load

/-!
# Deep working directories

A working directory may lie so deep that the system takes a relative path in it but not the
spelling of that path from the root. A settings file is then searched for in the directories above
only.
-/

namespace BraceBalance

namespace Path

theorem isAbsolute_append_ofLocation (location : Location) {path : Packed}
    (relative : isAbsolute path = false) : isAbsolute (append (ofLocation location) path) := by
  have notEmpty : (ofLocation location).isEmpty = false := rfl
  rw [append, relative, notEmpty]
  split
  · contradiction
  · split <;> rfl

end Path

namespace Workspace

variable {workspace : Workspace} {path : Packed}

/-- An absolute path does not start at the working directory. -/
theorem locate_of_isAbsolute (absolute : Path.isAbsolute path) (directory : Location) :
    { workspace with directory }.locate path = workspace.locate path := by
  simp only [locate, FileTree.locate, if_pos absolute]

theorem isFile_of_isAbsolute (absolute : Path.isAbsolute path) (directory : Location) :
    { workspace with directory }.isFile path = workspace.isFile path := by
  have same : { workspace with directory }.locate path = workspace.locate path :=
    locate_of_isAbsolute absolute directory
  unfold locate at same
  rw [isFile, file?, find?, FileTree.find?, same]
  rfl

theorem readBytes_of_isAbsolute (absolute : Path.isAbsolute path) (directory : Location) :
    { workspace with directory }.readBytes path = workspace.readBytes path := by
  rw [readBytes, locate_of_isAbsolute absolute]
  rfl

theorem isAbsolute_of_findSettingsFile? {file : Packed}
    (isFound : workspace.findSettingsFile? path = some file) : Path.isAbsolute file := by
  rw [findSettingsFile?] at isFound
  split at isFound
  · rename_i absolute
    split at isFound
    · cases isFound
      exact absolute
    · cases isFound
  · rename_i relative
    rcases List.mem_map.mp (List.mem_of_find?_eq_some isFound) with ⟨directory, _, rfl⟩
    exact Path.isAbsolute_append_ofLocation directory (Bool.eq_false_iff.mpr relative)

theorem searchDirectories_eq_cons (below : workspace.directory ≠ []) :
    workspace.searchDirectories = workspace.directory ::
      { workspace with directory := workspace.directory.dropLast }.searchDirectories := by
  rcases workspace with ⟨tree, directory, environment, disk⟩
  rcases directory.eq_nil_or_concat with rfl | ⟨above, last, rfl⟩
  · exact absurd rfl below
  · simp only [searchDirectories, List.concat_eq_append, List.dropLast_concat,
      List.length_append, List.length_singleton]
    rw [List.range_succ_eq_map, List.map_cons, List.map_map]
    congr 1
    · simp
    · apply List.map_congr_left
      intro count countMem
      have within : count < above.length + 1 := List.mem_range.mp countMem
      simp only [Function.comp_apply]
      rw [List.take_append_of_le_length (by omega)]
      congr 1
      omega

/-- Where the spelling from the root is too long, the search goes on as if it began in the
directory above. -/
theorem findSettingsFile?_of_long (relative : Path.isAbsolute path = false)
    (below : workspace.directory ≠ [])
    (long : FileTree.maxPathLength ≤
      (Path.append (Path.ofLocation workspace.directory) path).length) :
    workspace.findSettingsFile? path =
      { workspace with directory := workspace.directory.dropLast }.findSettingsFile? path := by
  have missing : ¬workspace.isFile (Path.append (Path.ofLocation workspace.directory) path) := by
    rw [isFile, file?, find?, FileTree.find?_of_long long]
    simp
  have same : ∀ directory : Location,
      { workspace with directory := workspace.directory.dropLast }.isFile
        (Path.append (Path.ofLocation directory) path) =
      workspace.isFile (Path.append (Path.ofLocation directory) path) := by
    intro directory
    exact isFile_of_isAbsolute (Path.isAbsolute_append_ofLocation directory relative) _
  rw [findSettingsFile?, findSettingsFile?, relative, if_neg (by simp), if_neg (by simp),
    searchDirectories_eq_cons below, List.map_cons, List.find?_cons_of_neg missing, List.find?_map,
    List.find?_map]
  congr 2
  funext directory
  exact (same directory).symm

end Workspace

/-! ## A chain of directories -/

namespace FileTree

/-- Directories of one name, each in the one before. -/
def chain (name : Packed) : Nat → FileTree
  | 0 => empty
  | depth + 1 => (chain name depth).insert (List.replicate (depth + 1) name) .directory

theorem node?_chain (name : Packed) {depth above : Nat} (within : above ≤ depth) :
    (chain name depth).node? (List.replicate above name) = some .directory := by
  induction depth with
  | zero =>
      rw [Nat.le_zero.mp within]
      rfl
  | succ depth ih =>
      rw [chain, node?_insert _ (by simp)]
      split
      · rfl
      · rename_i different
        have higher : above ≠ depth + 1 := by
          rintro rfl
          exact different rfl
        exact ih (by omega)

theorem ne_replicate_of_mem {name file : Packed} (different : file ≠ name) {location : Location}
    (fileMem : file ∈ location) (above : Nat) : location ≠ List.replicate above name := by
  rintro rfl
  exact different (List.eq_of_mem_replicate fileMem)

theorem node?_chain_of_ne {name : Packed} {location : Location}
    (other : ∀ above, location ≠ List.replicate above name) (depth : Nat) :
    (chain name depth).node? location = none := by
  induction depth with
  | zero =>
      rw [node?_of_ne_nil (other 0)]
      rfl
  | succ depth ih => rw [chain, node?_insert _ (by simp), if_neg (other _), ih]

/-- A name at which nothing stands is where something may be created. -/
theorem follow_vacant {tree : FileTree} {location : Location} {name : Packed}
    (isName : Path.IsName name) (here : tree.node? location = some .directory)
    (absent : tree.node? (location ++ [name]) = none) (creating : Bool) (links : Nat) :
    tree.follow creating links location [name] = .ok (.vacant (location ++ [name])) := by
  rw [follow, here]
  simp only [absent]
  rw [if_neg (by simp), if_neg isName.not_idle, if_neg isName.notDots,
    if_neg (Nat.not_lt.mpr isName.short)]
  rfl

end FileTree

theorem Path.length_spell_replicate (name : Packed) (depth : Nat) :
    (spell (List.replicate depth name)).length = depth * (name.length + 1) := by
  simp [spell]

end BraceBalance
