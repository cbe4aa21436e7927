import BraceBalance.Proofs.FileTree.PathOrder
import BraceBalance.Proofs.FileTree.Reading
import BraceBalance.Proofs.Outcome
import BraceBalance.Proofs.Text.Packed
import BraceBalance.Scan
import Mathlib.Data.List.Induction

/-!
# The files of a scan

A scan fails at the first of its paths that is neither a file nor a directory. Otherwise its
files are those of all its paths, in the order of paths and none of them twice. Which paths
come first, and whether a path comes more than once, makes no difference to them but for their
spelling.
-/

namespace BraceBalance

namespace Scan

open Packed (slash)

/-! ## Lists in order -/

theorem mem_of_mem_insertPath {path other : Packed} {files : List Packed}
    (otherMem : other ∈ insertPath path files) : other = path ∨ other ∈ files := by
  induction files with
  | nil => exact Or.inl (List.mem_singleton.mp otherMem)
  | cons file files ih =>
      unfold insertPath at otherMem
      split at otherMem
      · exact List.mem_cons.mp otherMem
      · exact Or.inr otherMem
      · rcases List.mem_cons.mp otherMem with rfl | laterMem
        · exact Or.inr List.mem_cons_self
        · exact (ih laterMem).imp_right (List.mem_cons_of_mem file)

theorem mem_insertPath_of_mem (path : Packed) {other : Packed} {files : List Packed}
    (otherMem : other ∈ files) : other ∈ insertPath path files := by
  induction files with
  | nil => contradiction
  | cons file files ih =>
      unfold insertPath
      split
      · exact List.mem_cons_of_mem path otherMem
      · exact otherMem
      · rcases List.mem_cons.mp otherMem with rfl | laterMem
        · exact List.mem_cons_self
        · exact List.mem_cons_of_mem file (ih laterMem)

theorem exists_mem_insertPath (path : Packed) (files : List Packed) :
    ∃ file ∈ insertPath path files, Path.components file = Path.components path := by
  induction files with
  | nil => exact ⟨path, List.mem_singleton_self path, rfl⟩
  | cons file files ih =>
      unfold insertPath
      split
      · exact ⟨path, List.mem_cons_self, rfl⟩
      · rename_i same
        exact ⟨file, List.mem_cons_self, (Path.compare_eq_eq_iff.mp same).symm⟩
      · rcases ih with ⟨other, otherMem, same⟩
        exact ⟨other, List.mem_cons_of_mem file otherMem, same⟩

theorem pairwise_insertPath (path : Packed) {files : List Packed}
    (ordered : files.Pairwise Path.Precedes) : (insertPath path files).Pairwise Path.Precedes := by
  induction ordered with
  | nil => exact List.pairwise_singleton _ path
  | cons first rest ih =>
      rename_i file files
      unfold insertPath
      split
      · rename_i less
        refine .cons ?_ (.cons first rest)
        intro other otherMem
        rcases List.mem_cons.mp otherMem with rfl | laterMem
        · exact less
        · exact Path.Precedes.trans less (first other laterMem)
      · exact .cons first rest
      · rename_i greater
        refine .cons ?_ ih
        intro other otherMem
        rcases mem_of_mem_insertPath otherMem with rfl | laterMem
        · exact Path.precedes_of_compare_eq_gt greater
        · exact first other laterMem

/-- The files are the given paths in their order. Of equal paths one spelling is kept. -/
structure ListsInOrder (paths files : List Packed) : Prop where
  ordered : files.Pairwise Path.Precedes
  given : ∀ file ∈ files, file ∈ paths
  complete : ∀ path ∈ paths, ∃ file ∈ files, Path.components file = Path.components path

namespace ListsInOrder

theorem nil : ListsInOrder [] [] :=
  ⟨.nil, by simp, by simp⟩

theorem insertPath {paths files : List Packed} (lists : ListsInOrder paths files) (path : Packed) :
    ListsInOrder (paths ++ [path]) (insertPath path files) := by
  refine ⟨pairwise_insertPath path lists.ordered, ?_, ?_⟩
  · intro file fileMem
    rw [List.mem_append, List.mem_singleton]
    rcases mem_of_mem_insertPath fileMem with rfl | earlierMem
    · exact Or.inr rfl
    · exact Or.inl (lists.given file earlierMem)
  · intro other otherMem
    rw [List.mem_append, List.mem_singleton] at otherMem
    rcases otherMem with earlierMem | rfl
    · rcases lists.complete other earlierMem with ⟨file, fileMem, same⟩
      exact ⟨file, mem_insertPath_of_mem path fileMem, same⟩
    · exact exists_mem_insertPath other files

theorem foldl (paths : List Packed) :
    ListsInOrder paths (paths.foldl (fun files path => Scan.insertPath path files) []) := by
  induction paths using List.reverseRecOn with
  | nil => exact nil
  | append_singleton paths path ih =>
      rw [List.foldl_append]
      exact ih.insertPath path

theorem mem_map_components_iff {paths files : List Packed} (lists : ListsInOrder paths files)
    (place : List Component) :
    place ∈ files.map Path.components ↔ place ∈ paths.map Path.components := by
  simp only [List.mem_map]
  constructor
  · rintro ⟨file, fileMem, rfl⟩
    exact ⟨file, lists.given file fileMem, rfl⟩
  · rintro ⟨path, pathMem, rfl⟩
    exact lists.complete path pathMem

/-- Only the set of the paths matters. -/
theorem components_eq {paths others files otherFiles : List Packed}
    (lists : ListsInOrder paths files) (otherLists : ListsInOrder others otherFiles)
    (same : ∀ path, path ∈ paths ↔ path ∈ others) :
    files.map Path.components = otherFiles.map Path.components := by
  apply Path.components_eq_of_pairwise lists.ordered otherLists.ordered
  intro place
  rw [lists.mem_map_components_iff, otherLists.mem_map_components_iff]
  simp only [List.mem_map, same]

end ListsInOrder

/-! ## Paths of a scan -/

/-- A path that can be scanned. -/
def IsRoot (workspace : Workspace) (path : Packed) : Prop :=
  workspace.isDirectory path ∨ workspace.isFile path

/-- The walk of a directory comes to the entry that these names lead to from it. -/
inductive Walks (workspace : Workspace) (root : Packed) (names : List Packed) : Prop where
  | entry {directory : Location} {node : FileNode}
      (isDirectory : workspace.find? root = some (directory, .directory))
      (notHyphen : isHyphen root = false)
      (isBelow : (names, node) ∈ workspace.tree.below directory)
      (visible : isVisible workspace root directory names node.isDirectory)

/-- The entry is a file of the wanted kind, or a link to one. -/
structure Wants (workspace : Workspace) (filter : ScanFilter) (root : Packed)
    (names : List Packed) : Prop where
  isFile : ∃ body, workspace.file? (Path.appendNames root names) = some body ∧
    body.content.size ≤ filter.maxFileSize
  extension : ∃ name extension, names.getLast? = some name ∧
    Path.extension? name = some (Packed.ofText extension) ∧ extension ∈ filter.extensions
  kept : ∀ pattern ∈ filter.exclude, pattern.isMatch (Packed.shown (Text.join [slash] names)) = false

/-- A path of a scan takes a file: itself, or one below it. -/
inductive Takes (workspace : Workspace) (filter : ScanFilter) (root : Packed) : Packed → Prop where
  | itself (isFile : workspace.isFile root) : Takes workspace filter root root
  | below {names : List Packed} (walks : Walks workspace root names)
      (wants : Wants workspace filter root names) :
      Takes workspace filter root (Path.appendNames root names)

theorem accepts_iff {filter : ScanFilter} {names : List Packed} {size : Nat} :
    filter.accepts names size ↔
      (∀ pattern ∈ filter.exclude,
        pattern.isMatch (Packed.shown (Text.join [slash] names)) = false) ∧
      (∃ name extension, names.getLast? = some name ∧
        Path.extension? name = some (Packed.ofText extension) ∧ extension ∈ filter.extensions) ∧
      size ≤ filter.maxFileSize := by
  unfold ScanFilter.accepts
  cases names.getLast? with
  | none => simp
  | some name =>
      cases found : Path.extension? name with
      | none => simp [found]
      | some extension =>
          have isText : (∃ text, extension = Packed.ofText text ∧ text ∈ filter.extensions) ↔
              ∃ text, extension.text? = some text ∧ text ∈ filter.extensions := by
            simp only [Packed.text?_eq_some_iff]
          cases text : extension.text? <;> simp [found, and_assoc, isText, text]

theorem mem_filesBelow_iff {workspace : Workspace} {filter : ScanFilter} {root : Packed}
    {directory : Location} (isDirectory : workspace.find? root = some (directory, .directory))
    (notHyphen : isHyphen root = false) {names : List Packed} :
    names ∈ filesBelow workspace filter root directory ↔
      Walks workspace root names ∧ Wants workspace filter root names := by
  unfold filesBelow
  rw [List.mem_filterMap]
  constructor
  · rintro ⟨⟨reached, node⟩, isBelow, taken⟩
    unfold fileSize? at taken
    cases holds : workspace.file? (Path.appendNames root reached) with
    | none => simp [holds] at taken
    | some body =>
        simp only [holds, Option.map_some, Option.ite_none_right_eq_some, Bool.and_eq_true,
          Option.some.injEq, accepts_iff] at taken
        rcases taken with ⟨⟨⟨kept, extension, small⟩, visible⟩, rfl⟩
        exact ⟨.entry isDirectory notHyphen isBelow visible, ⟨body, holds, small⟩, extension, kept⟩
  · rintro ⟨⟨isDirectory', _, isBelow, visible⟩, ⟨body, holds, small⟩, extension, kept⟩
    rw [isDirectory] at isDirectory'
    cases isDirectory'
    refine ⟨_, isBelow, ?_⟩
    have accepted := accepts_iff.mpr ⟨kept, extension, small⟩
    simp [fileSize?, holds, accepted, visible]

theorem isDirectory_iff {workspace : Workspace} {path : Packed} :
    workspace.isDirectory path ↔
      ∃ location, workspace.find? path = some (location, .directory) := by
  unfold Workspace.isDirectory
  split
  · rename_i location found
    exact ⟨fun _ => ⟨location, found⟩, fun _ => rfl⟩
  · rename_i other
    exact ⟨fun absurd => by simp at absurd, fun ⟨location, found⟩ => (other location found).elim⟩

theorem isFile_iff {workspace : Workspace} {path : Packed} :
    workspace.isFile path ↔
      ∃ location body, workspace.find? path = some (location, .file body) := by
  rw [Workspace.isFile, Option.isSome_iff_exists, exists_comm]
  simp only [Workspace.file?_eq_some_iff]

theorem pathsOfRoot_of_isDirectory {workspace : Workspace} {root : Packed}
    (isDirectory : workspace.isDirectory root) (filter : ScanFilter) :
    ∃ paths, pathsOfRoot workspace filter root = .ok paths ∧
      ∀ path, path ∈ paths ↔ Takes workspace filter root path := by
  rcases isDirectory_iff.mp isDirectory with ⟨directory, found⟩
  have notFile : ¬workspace.isFile root := by
    rintro isFile
    rcases isFile_iff.mp isFile with ⟨location, body, isFile⟩
    rw [found] at isFile
    cases isFile
  unfold pathsOfRoot
  rw [found]
  by_cases hyphen : isHyphen root
  · refine ⟨[], by simp [hyphen], ?_⟩
    intro path
    refine ⟨fun pathMem => absurd pathMem List.not_mem_nil, ?_⟩
    rintro (isFile | ⟨⟨_, notHyphen, _, _⟩, _⟩)
    · exact absurd isFile notFile
    · rw [notHyphen] at hyphen
      contradiction
  · have notHyphen : isHyphen root = false := Bool.eq_false_iff.mpr hyphen
    refine ⟨(filesBelow workspace filter root directory).map (Path.appendNames root),
      by simp [notHyphen], ?_⟩
    intro path
    rw [List.mem_map]
    constructor
    · rintro ⟨names, namesMem, rfl⟩
      rcases (mem_filesBelow_iff found notHyphen).mp namesMem with ⟨walks, wants⟩
      exact .below walks wants
    · rintro (isFile | ⟨walks, wants⟩)
      · exact absurd isFile notFile
      · exact ⟨_, (mem_filesBelow_iff found notHyphen).mpr ⟨walks, wants⟩, rfl⟩

theorem pathsOfRoot_of_isFile {workspace : Workspace} {root : Packed}
    (isFile : workspace.isFile root) (filter : ScanFilter) :
    ∃ paths, pathsOfRoot workspace filter root = .ok paths ∧
      ∀ path, path ∈ paths ↔ Takes workspace filter root path := by
  rcases isFile_iff.mp isFile with ⟨location, body, found⟩
  refine ⟨[root], by simp [pathsOfRoot, found], ?_⟩
  intro path
  rw [List.mem_singleton]
  constructor
  · rintro rfl
    exact .itself isFile
  · rintro (_ | ⟨⟨isDirectory, _, _, _⟩, _⟩)
    · rfl
    · rw [found] at isDirectory
      cases isDirectory

theorem pathsOfRoot_of_isRoot {workspace : Workspace} {root : Packed}
    (isRoot : IsRoot workspace root) (filter : ScanFilter) :
    ∃ paths, pathsOfRoot workspace filter root = .ok paths ∧
      ∀ path, path ∈ paths ↔ Takes workspace filter root path := by
  rcases isRoot with isDirectory | isFile
  · exact pathsOfRoot_of_isDirectory isDirectory filter
  · exact pathsOfRoot_of_isFile isFile filter

theorem pathsOfRoot_of_not_isRoot {workspace : Workspace} {root : Packed}
    (notRoot : ¬IsRoot workspace root) (filter : ScanFilter) :
    pathsOfRoot workspace filter root = .error (.file root .missingRoot) := by
  unfold pathsOfRoot
  split
  · rename_i directory found
    exact absurd (Or.inl (isDirectory_iff.mpr ⟨directory, found⟩)) notRoot
  · rename_i location body found
    exact absurd (Or.inr (isFile_iff.mpr ⟨location, body, found⟩)) notRoot
  · rfl

theorem collect_eq_bind (workspace : Workspace) (filter : ScanFilter) (roots : List Packed) :
    collect workspace filter roots = (roots.mapM (pathsOfRoot workspace filter)).bind fun paths =>
      .ok (paths.flatten.foldl (fun files path => insertPath path files) []) :=
  rfl

theorem collect_of_isRoot {workspace : Workspace} {roots : List Packed}
    (areRoots : ∀ root ∈ roots, IsRoot workspace root) (filter : ScanFilter) :
    ∃ paths files, collect workspace filter roots = .ok files ∧ ListsInOrder paths files ∧
      ∀ path, path ∈ paths ↔ ∃ root ∈ roots, Takes workspace filter root path := by
  have each : ∃ taken, roots.mapM (pathsOfRoot workspace filter) = .ok taken ∧
      ∀ path, path ∈ taken.flatten ↔ ∃ root ∈ roots, Takes workspace filter root path := by
    induction roots with
    | nil => exact ⟨[], rfl, by simp⟩
    | cons root roots ih =>
        rw [List.forall_mem_cons] at areRoots
        rcases pathsOfRoot_of_isRoot areRoots.1 filter with ⟨paths, ofRoot, pathsMem⟩
        rcases ih areRoots.2 with ⟨taken, ofRoots, takenMem⟩
        refine ⟨paths :: taken, ?_, ?_⟩
        · rw [List.mapM_cons, ofRoot, ofRoots]
          rfl
        · simp [pathsMem, takenMem]
  rcases each with ⟨taken, ofRoots, takenMem⟩
  refine ⟨taken.flatten, _, ?_, ListsInOrder.foldl taken.flatten, takenMem⟩
  rw [collect_eq_bind, ofRoots]
  rfl

theorem collect_of_not_isRoot {workspace : Workspace} {before : List Packed} {root : Packed}
    (areRoots : ∀ earlier ∈ before, IsRoot workspace earlier) (notRoot : ¬IsRoot workspace root)
    (filter : ScanFilter) (after : List Packed) :
    collect workspace filter (before ++ root :: after) = .error (.file root .missingRoot) := by
  have ofRoots : (before ++ root :: after).mapM (pathsOfRoot workspace filter) =
      .error (.file root .missingRoot) := by
    apply Outcome.mapM_eq_error
    · intro earlier earlierMem
      rcases pathsOfRoot_of_isRoot (areRoots earlier earlierMem) filter with ⟨paths, ofRoot, _⟩
      exact ⟨paths, ofRoot⟩
    · exact pathsOfRoot_of_not_isRoot notRoot filter
  rw [collect_eq_bind, ofRoots]
  rfl

/-- The first path that cannot be scanned splits a list of which some path cannot. -/
theorem exists_first_not_isRoot {workspace : Workspace} {roots : List Packed}
    (notAll : ¬∀ root ∈ roots, IsRoot workspace root) :
    ∃ before root after, roots = before ++ root :: after ∧
      (∀ earlier ∈ before, IsRoot workspace earlier) ∧ ¬IsRoot workspace root := by
  induction roots with
  | nil => exact absurd (by simp) notAll
  | cons first roots ih =>
      by_cases isRoot : IsRoot workspace first
      · have notRest : ¬∀ root ∈ roots, IsRoot workspace root := by
          intro rest
          exact notAll (List.forall_mem_cons.mpr ⟨isRoot, rest⟩)
        rcases ih notRest with ⟨before, root, after, rfl, areRoots, notRoot⟩
        exact ⟨first :: before, root, after, rfl, List.forall_mem_cons.mpr ⟨isRoot, areRoots⟩, notRoot⟩
      · exact ⟨[], first, roots, rfl, by simp, isRoot⟩

/-- The paths of a scan yield files if all of them can be scanned. The files are in order and are
those that some path takes. -/
theorem collect_eq_union (workspace : Workspace) (filter : ScanFilter) (roots : List Packed) :
    (∀ before root after, roots = before ++ root :: after →
      (∀ earlier ∈ before, IsRoot workspace earlier) → ¬IsRoot workspace root →
      collect workspace filter roots = .error (.file root .missingRoot)) ∧
    ((∀ root ∈ roots, IsRoot workspace root) →
      ∃ files, collect workspace filter roots = .ok files ∧ files.Pairwise Path.Precedes ∧
        (∀ file ∈ files, ∃ root ∈ roots, Takes workspace filter root file) ∧
        ∀ root ∈ roots, ∀ path, Takes workspace filter root path →
          ∃ file ∈ files, Path.components file = Path.components path) ∧
    ∀ others, (∀ root, root ∈ others ↔ root ∈ roots) →
      (collect workspace filter others).toOption.map (List.map Path.components) =
        (collect workspace filter roots).toOption.map (List.map Path.components) := by
  refine ⟨?_, ?_, ?_⟩
  · rintro before root after rfl areRoots notRoot
    exact collect_of_not_isRoot areRoots notRoot filter after
  · intro areRoots
    rcases collect_of_isRoot areRoots filter with ⟨paths, files, collected, lists, taken⟩
    refine ⟨files, collected, lists.ordered, ?_, ?_⟩
    · intro file fileMem
      exact (taken file).mp (lists.given file fileMem)
    · intro root rootMem path takes
      exact lists.complete path ((taken path).mpr ⟨root, rootMem, takes⟩)
  · intro others sameRoots
    by_cases areRoots : ∀ root ∈ roots, IsRoot workspace root
    · have othersAreRoots : ∀ root ∈ others, IsRoot workspace root := by
        intro root rootMem
        exact areRoots root ((sameRoots root).mp rootMem)
      rcases collect_of_isRoot areRoots filter with ⟨paths, files, collected, lists, taken⟩
      rcases collect_of_isRoot othersAreRoots filter with
        ⟨otherPaths, otherFiles, otherCollected, otherLists, otherTaken⟩
      rw [collected, otherCollected]
      apply congrArg some
      apply otherLists.components_eq lists
      intro path
      simp only [taken, otherTaken, sameRoots]
    · have notOthers : ¬∀ root ∈ others, IsRoot workspace root := by
        intro othersAreRoots
        exact areRoots fun root rootMem => othersAreRoots root ((sameRoots root).mpr rootMem)
      rcases exists_first_not_isRoot areRoots with ⟨before, root, after, rfl, earlier, notRoot⟩
      rcases exists_first_not_isRoot notOthers with
        ⟨before', root', after', rfl, earlier', notRoot'⟩
      rw [collect_of_not_isRoot earlier notRoot, collect_of_not_isRoot earlier' notRoot']
      rfl

end Scan

end BraceBalance
