import BraceBalance.Proofs.FileTree.Reading
import BraceBalance.Settings.Load
import Mathlib.Data.List.Flatten
import Mathlib.Data.List.Infix

/-!
# Paths from the working directory

A relative path leads from the root to the same place as from the working directory, once the
path of the working directory stands before it. That holds for a working directory whose names
stand for themselves and lead to directories, and for a path that the system takes at that
length. A settings file that a relative path names is therefore found in the working directory
before any directory above it is searched.
-/

namespace BraceBalance

namespace Path

open Packed (slash)

/-- A name that stands for itself in a path. -/
structure IsName (name : Packed) : Prop where
  notEmpty : name ≠ []
  notDot : name ≠ "."
  notDots : name ≠ ".."
  noSlash : slash ∉ name
  noZero : 0 ∉ name
  short : name.length ≤ FileTree.maxNameLength

theorem IsName.not_idle {name : Packed} (isName : IsName name) :
    ¬(name = [] || name = ".") = true := by
  simpa using ⟨isName.notEmpty, isName.notDot⟩

/-- Names in a row, each behind a slash. -/
def spell (names : List Packed) : Packed :=
  names.flatMap (slash :: ·)

theorem spell_cons (name : Packed) (names : List Packed) :
    spell (name :: names) = slash :: (name ++ spell names) := by
  rw [spell, List.flatMap_cons, List.cons_append]
  rfl

theorem splitOn_spell {names : List Packed} (areNames : ∀ name ∈ names, IsName name)
    (path : Packed) :
    Text.splitOn slash (spell names ++ slash :: path) =
      [] :: (names ++ Text.splitOn slash path) := by
  induction names with
  | nil => exact Text.splitOn_cons_separator slash path
  | cons name names ih =>
      have isName := areNames name List.mem_cons_self
      have later := ih fun name nameMem => areNames name (List.mem_cons_of_mem _ nameMem)
      have slash : ∃ behind, spell names ++ slash :: path = slash :: behind := by
        rcases names with _ | ⟨next, names⟩
        · exact ⟨path, rfl⟩
        · exact ⟨_, by rw [spell_cons]; rfl⟩
      rcases slash with ⟨behind, shape⟩
      rw [shape, Text.splitOn_cons_separator] at later
      rw [spell_cons, List.cons_append, List.append_assoc, shape, Text.splitOn_cons_separator,
        Text.splitOn_append_separator isName.noSlash, (List.cons.inj later).2, List.cons_append]

/-- The last character of a path is the last of what stands behind its last slash. -/
theorem endsWithSlash_append {path : Packed} (notEmpty : path ≠ []) (before : Packed) :
    endsWithSlash (before ++ slash :: path) = endsWithSlash path := by
  rcases path with _ | ⟨char, path⟩
  · exact absurd rfl notEmpty
  · rw [endsWithSlash, endsWithSlash, List.getLast?_append_cons, List.getLast?_cons_cons]

theorem steps_spell {names : List Packed} (areNames : ∀ name ∈ names, IsName name) {path : Packed}
    (notEmpty : path ≠ []) : steps (spell names ++ slash :: path) = names ++ steps path := by
  have kept : names.filter (· ≠ []) = names := by
    apply List.filter_eq_self.mpr
    intro name nameMem
    simpa using (areNames name nameMem).notEmpty
  rw [steps, splitOn_spell areNames, endsWithSlash_append notEmpty,
    List.filter_cons_of_neg (by simp), List.filter_append, kept, List.append_assoc]
  rfl

theorem endsWithSlash_spell {names : List Packed} (areNames : ∀ name ∈ names, IsName name) :
    endsWithSlash (spell names) = false := by
  rcases names.eq_nil_or_concat with rfl | ⟨before, last, rfl⟩
  · rfl
  · have isName := areNames last (by simp)
    have shape : spell (before ++ [last]) = spell before ++ slash :: last := by
      simp [spell]
    rw [List.concat_eq_append, shape, endsWithSlash_append isName.notEmpty, endsWithSlash,
      decide_eq_false_iff_not]
    intro slash
    exact isName.noSlash (List.mem_of_getLast? slash)

/-- The path of a location, and a relative path behind it. -/
theorem append_ofLocation {location : Location} (areNames : ∀ name ∈ location, IsName name)
    {path : Packed} (relative : isAbsolute path = false) :
    append (ofLocation location) path = spell location ++ slash :: path := by
  rcases location with _ | ⟨name, names⟩
  · rw [append, relative]
    rfl
  · have shape : ofLocation (name :: names) = spell (name :: names) := rfl
    have notEmpty : (spell (name :: names)).isEmpty = false := rfl
    rw [append, relative, shape, notEmpty, endsWithSlash_spell areNames]
    rfl

end Path

/-! ## Following -/

namespace FileTree

/-- Names of directories are followed one by one. -/
theorem follow_append {tree : FileTree} {location : Location} {names : List Packed}
    (areNames : ∀ name ∈ names, Path.IsName name)
    (directories : ∀ above, above <+: names → tree.node? (location ++ above) = some .directory)
    (links : Nat) (rest : List Packed) :
    tree.follow false links location (names ++ rest) =
      tree.follow false links (location ++ names) rest := by
  induction names generalizing location with
  | nil => rw [List.nil_append, List.append_nil]
  | cons name names ih =>
      have isName := areNames name List.mem_cons_self
      have here : tree.node? location = some .directory := by
        simpa using directories [] List.nil_prefix
      have next : tree.node? (location ++ [name]) = some .directory :=
        directories [name] (List.prefix_append [name] names)
      have directoriesBelow : ∀ above, above <+: names →
          tree.node? (location ++ [name] ++ above) = some .directory := by
        intro above isAbove
        rw [List.append_assoc]
        exact directories (name :: above) (List.cons_prefix_cons.mpr ⟨rfl, isAbove⟩)
      have later := ih (fun name nameMem => areNames name (List.mem_cons_of_mem _ nameMem))
        directoriesBelow
      rw [List.cons_append, follow]
      simp only [here, next, Bool.false_and, Bool.false_eq_true, if_false]
      rw [if_neg isName.not_idle, if_neg isName.notDots, if_neg (Nat.not_lt.mpr isName.short), later,
        List.append_assoc, List.singleton_append]

theorem follow_name {tree : FileTree} {location : Location} {name : Packed} {body : FileBody}
    (isName : Path.IsName name) (here : tree.node? location = some .directory)
    (there : tree.node? (location ++ [name]) = some (.file body)) (links : Nat) :
    tree.follow false links location [name] =
      .ok (.found (location ++ [name]) (.file body)) := by
  have arrived : tree.follow false links (location ++ [name]) [] =
      .ok (.found (location ++ [name]) (.file body)) := by
    rw [follow, there]
  rw [follow]
  simp only [here, there, Bool.false_and, Bool.false_eq_true, if_false]
  rw [if_neg isName.not_idle, if_neg isName.notDots, if_neg (Nat.not_lt.mpr isName.short), arrived]

end FileTree

/-! ## Working directories -/

namespace Workspace

open Packed (slash)

/-- The working directory is spelled by names that lead to it through directories. -/
structure HasDirectory (workspace : Workspace) : Prop where
  areNames : ∀ name ∈ workspace.directory, Path.IsName name
  directories : ∀ above, above <+: workspace.directory →
    workspace.tree.node? above = some .directory

/-- A path as it is spelled from the root. -/
def absolutePath (workspace : Workspace) (path : Packed) : Packed :=
  Path.append (Path.ofLocation workspace.directory) path

/-- The system can follow the path also from the root. -/
def ReachesFromRoot (workspace : Workspace) (path : Packed) : Prop :=
  Path.isAbsolute path ∨
    workspace.HasDirectory ∧ (workspace.absolutePath path).length < FileTree.maxPathLength

theorem locate_absolutePath {workspace : Workspace} (hasDirectory : workspace.HasDirectory)
    {path : Packed} (relative : Path.isAbsolute path = false)
    (short : (workspace.absolutePath path).length < FileTree.maxPathLength) {place : Place}
    (located : workspace.locate path = .ok place) :
    workspace.locate (workspace.absolutePath path) = .ok place := by
  have spelled : workspace.absolutePath path = Path.spell workspace.directory ++ slash :: path :=
    Path.append_ofLocation hasDirectory.areNames relative
  rw [locate, FileTree.locate] at located
  split at located
  · exact absurd located (by simp)
  rename_i noZero
  split at located
  · exact absurd located (by simp)
  rename_i notEmpty
  split at located
  · exact absurd located (by simp)
  rw [if_neg (by simp [relative])] at located
  have noZeroBefore : 0 ∉ Path.spell workspace.directory := by
    intro zeroMem
    rcases List.mem_flatMap.mp zeroMem with ⟨name, nameMem, zeroMem⟩
    rcases List.mem_cons.mp zeroMem with zero | zeroMem
    · exact absurd zero (by decide)
    · exact (hasDirectory.areNames name nameMem).noZero zeroMem
  have noZeroInAll : ¬(workspace.absolutePath path).contains 0 = true := by
    rw [spelled, List.contains_iff_mem, List.mem_append, List.mem_cons]
    rintro (zeroMem | zero | zeroMem)
    · exact noZeroBefore zeroMem
    · exact absurd zero (by decide)
    · exact noZero (List.contains_iff_mem.mpr zeroMem)
  have isAbsolute : Path.isAbsolute (workspace.absolutePath path) = true := by
    rw [spelled]
    rcases workspace.directory with _ | ⟨name, names⟩ <;> rfl
  have allNotEmpty : ¬(workspace.absolutePath path).isEmpty = true := by
    simp [spelled]
  rw [locate, FileTree.locate, if_neg noZeroInAll, if_neg allNotEmpty,
    if_neg (Nat.not_le.mpr short), if_pos isAbsolute, spelled,
    Path.steps_spell hasDirectory.areNames (by simpa using notEmpty),
    FileTree.follow_append hasDirectory.areNames hasDirectory.directories]
  exact located

theorem find?_absolutePath {workspace : Workspace} (hasDirectory : workspace.HasDirectory)
    {path : Packed} (relative : Path.isAbsolute path = false)
    (short : (workspace.absolutePath path).length < FileTree.maxPathLength)
    {place : Location × FileNode} (found : workspace.find? path = some place) :
    workspace.find? (workspace.absolutePath path) = some place := by
  rw [find?, FileTree.find?] at found
  split at found
  · rename_i location node located
    have same := locate_absolutePath hasDirectory relative short located
    rw [locate] at same
    rw [find?, FileTree.find?, same]
    exact found
  · exact absurd found (by simp)

/-- The search for a settings file ends in the working directory if the path names a file
there. -/
theorem exists_findSettingsFile? {workspace : Workspace} {path : Packed}
    (reaches : workspace.ReachesFromRoot path) (isFile : workspace.isFile path) :
    ∃ file, workspace.findSettingsFile? path = some file ∧
      workspace.readBytes file = workspace.readBytes path := by
  by_cases absolute : Path.isAbsolute path
  · refine ⟨path, ?_, rfl⟩
    rw [findSettingsFile?, if_pos absolute, if_pos isFile]
  · rcases reaches with isAbsolute | ⟨hasDirectory, short⟩
    · exact absurd isAbsolute absolute
    have relative : Path.isAbsolute path = false := Bool.eq_false_iff.mpr absolute
    rcases Option.isSome_iff_exists.mp isFile with ⟨body, holds⟩
    rcases file?_eq_some_iff.mp holds with ⟨location, found⟩
    have sameFile : workspace.file? (workspace.absolutePath path) = some body :=
      file?_eq_some_iff.mpr ⟨location, find?_absolutePath hasDirectory relative short found⟩
    refine ⟨workspace.absolutePath path, ?_, ?_⟩
    · have nearest : workspace.searchDirectories = workspace.directory ::
          ((List.range workspace.directory.length).map (· + 1)).map fun count =>
            workspace.directory.take (workspace.directory.length - count) := by
        rw [searchDirectories, List.range_succ_eq_map, List.map_cons, Nat.sub_zero,
          List.take_length]
      have isFileFromRoot : workspace.isFile (workspace.absolutePath path) :=
        Option.isSome_iff_exists.mpr ⟨body, sameFile⟩
      rw [findSettingsFile?, if_neg absolute, nearest, List.map_cons]
      exact List.find?_cons_of_pos isFileFromRoot
    · rw [readBytes_of_file? sameFile, readBytes_of_file? holds]

/-! ## The file of a project -/

theorem isName_projectFileName : Path.IsName projectFileName :=
  ⟨by decide, by decide, by decide, by decide, by decide, by decide⟩

theorem locate_projectFileName (tree : FileTree) (creating : Bool) (working : Location) :
    tree.locate creating working projectFileName =
      tree.follow creating FileTree.maxLinks working [projectFileName] := by
  have steps : Path.steps projectFileName = [projectFileName] := rfl
  rw [FileTree.locate, if_neg (by decide), if_neg (by decide), if_neg (by decide),
    if_neg (by decide), steps]

/-- The project's file is the one of its name in the working directory. -/
theorem file?_projectFileName {workspace : Workspace} {body : FileBody}
    (here : workspace.tree.node? workspace.directory = some .directory)
    (there : workspace.tree.node? (workspace.directory ++ [projectFileName]) = some (.file body)) :
    workspace.file? projectFileName = some body := by
  have located : workspace.locate projectFileName =
      .ok (.found (workspace.directory ++ [projectFileName]) (.file body)) := by
    rw [locate, locate_projectFileName]
    exact FileTree.follow_name isName_projectFileName here there FileTree.maxLinks
  exact file?_eq_some_iff.mpr ⟨_, FileTree.find?_eq_some_iff.mpr located⟩

/-- A workspace whose working directory holds the settings file of a project and nothing else. -/
def ofProjectFile (content : ByteArray) : Workspace where
  tree := ⟨[(["work"], .directory), (["work", projectFileName], .plain content)]⟩
  directory := ["work"]
  environment := []

theorem hasDirectory_ofProjectFile (content : ByteArray) :
    (ofProjectFile content).HasDirectory where
  areNames := by
    intro work workMem
    have same : work = "work" := List.mem_singleton.mp workMem
    subst same
    exact ⟨by decide, by decide, by decide, by decide, by decide, by decide⟩
  directories := by
    intro above isAbove
    rcases above with _ | ⟨work, below⟩
    · rfl
    · rcases List.cons_prefix_cons.mp isAbove with ⟨rfl, isBelow⟩
      have same : below = [] := List.prefix_nil.mp isBelow
      subst same
      rfl

theorem reachesFromRoot_ofProjectFile (content : ByteArray) :
    (ofProjectFile content).ReachesFromRoot projectFileName := by
  refine Or.inr ⟨hasDirectory_ofProjectFile content, ?_⟩
  change List.length (Path.append (Path.ofLocation ["work"]) projectFileName) < _
  decide

theorem file?_ofProjectFile (content : ByteArray) :
    (ofProjectFile content).file? projectFileName = some { content } :=
  file?_projectFileName rfl rfl

theorem isFile_ofProjectFile (content : ByteArray) :
    (ofProjectFile content).isFile projectFileName :=
  Option.isSome_iff_exists.mpr ⟨_, file?_ofProjectFile content⟩

theorem fileContent?_ofProjectFile (content : ByteArray) :
    (ofProjectFile content).fileContent? projectFileName = some content := by
  rw [fileContent?_eq_some_iff, readBytes_of_file? (file?_ofProjectFile content)]
  rfl

end Workspace

end BraceBalance
