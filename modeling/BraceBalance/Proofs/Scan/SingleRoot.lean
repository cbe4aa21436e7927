import BraceBalance.Proofs.FileTree.Below
import BraceBalance.Proofs.Ignore.Locality
import BraceBalance.Proofs.Scan.Collect

/-!
# Scans of one directory

A scan of one directory lists names behind the path of the directory. Which names come first is for
the names alone, because the paths begin alike.
-/

namespace BraceBalance

namespace Path

theorem compareComponents_append (before left right : List Component) :
    compareComponents (before ++ left) (before ++ right) = compareComponents left right := by
  induction before with
  | nil => rfl
  | cons component before ih =>
      have same : component.compare component = .eq := Std.ReflCmp.compare_self
      rw [List.cons_append, List.cons_append, compareComponents, same]
      exact ih

/-- Names come before others in the order of paths. -/
def NamesPrecede (names others : List Packed) : Prop :=
  compareComponents (names.map Component.ofName) (others.map Component.ofName) = .lt

instance : Std.Asymm NamesPrecede :=
  ⟨fun _ _ less => Std.OrientedCmp.not_lt_of_lt less⟩

theorem precedes_appendNames_iff {root : Packed} {names others : List Packed} (nonempty : root ≠ [])
    (areParts : ∀ name ∈ names, IsPart name) (othersAreParts : ∀ name ∈ others, IsPart name) :
    Precedes (appendNames root names) (appendNames root others) ↔ NamesPrecede names others := by
  rw [Precedes, compare, components_appendNames nonempty areParts,
    components_appendNames nonempty othersAreParts, compareComponents_append]
  rfl

end Path

namespace Scan

/-! ## Names in order -/

theorem Walks.areParts {workspace : Workspace} {root : Packed} {names : List Packed}
    (isTree : workspace.tree.IsTree) (walks : Walks workspace root names) :
    names ≠ [] ∧ ∀ name ∈ names, Path.IsPart name := by
  rcases walks with ⟨_, _, isBelow, _⟩
  rcases isTree.mem_below_iff.mp isBelow with ⟨more, stands⟩
  refine ⟨more, ?_⟩
  intro name nameMem
  exact (isTree.areNames_below stands name nameMem).isPart

theorem pathsOfRoot_of_find? {workspace : Workspace} {root : Packed} {directory : Location}
    (found : workspace.find? root = some (directory, .directory))
    (notHyphen : isHyphen root = false) (filter : ScanFilter) :
    pathsOfRoot workspace filter root =
      .ok ((filesBelow workspace filter root directory).map (Path.appendNames root)) := by
  simp [pathsOfRoot, found, notHyphen]

theorem collect_of_find? {workspace : Workspace} {root : Packed} {directory : Location}
    (found : workspace.find? root = some (directory, .directory))
    (notHyphen : isHyphen root = false) (filter : ScanFilter) :
    collect workspace filter [root] =
      .ok (((filesBelow workspace filter root directory).map (Path.appendNames root)).foldl
        (fun files path => insertPath path files) []) := by
  rw [collect_eq_bind, List.mapM_cons, pathsOfRoot_of_find? found notHyphen, List.mapM_nil]
  simp [bind, Except.bind, pure, Except.pure]

theorem exists_map_eq {α β : Type} {render : α → β} {images : List β} {holds : α → Prop}
    (each : ∀ image ∈ images, ∃ element, holds element ∧ render element = image) :
    ∃ elements : List α, elements.map render = images ∧ ∀ element ∈ elements, holds element := by
  induction images with
  | nil => exact ⟨[], rfl, by simp⟩
  | cons image images ih =>
      rw [List.forall_mem_cons] at each
      rcases each.1 with ⟨element, holdsElement, rfl⟩
      rcases ih each.2 with ⟨elements, rfl, holdsElements⟩
      exact ⟨element :: elements, rfl, List.forall_mem_cons.mpr ⟨holdsElement, holdsElements⟩⟩

theorem takes_iff {workspace : Workspace} {filter : ScanFilter} {root : Packed} {directory : Location}
    (isDirectory : workspace.find? root = some (directory, .directory)) {path : Packed} :
    Takes workspace filter root path ↔
      ∃ names, (Walks workspace root names ∧ Wants workspace filter root names) ∧
        Path.appendNames root names = path := by
  constructor
  · rintro (isFile | ⟨walks, wants⟩)
    · rcases isFile_iff.mp isFile with ⟨location, body, found⟩
      rw [isDirectory] at found
      cases found
    · exact ⟨_, ⟨walks, wants⟩, rfl⟩
  · rintro ⟨names, ⟨walks, wants⟩, rfl⟩
    exact .below walks wants

theorem wants_iff {workspace : Workspace} {filter : ScanFilter} {root : Packed} {names : List Packed} :
    Wants workspace filter root names ↔
      ∃ size, fileSize? workspace (Path.appendNames root names) = some size ∧
        filter.accepts names size := by
  constructor
  · rintro ⟨⟨body, holds, small⟩, extension, kept⟩
    exact ⟨body.content.size, by rw [fileSize?, holds]; rfl, accepts_iff.mpr ⟨kept, extension, small⟩⟩
  · rintro ⟨size, isSize, accepted⟩
    rcases Option.map_eq_some_iff.mp isSize with ⟨body, holds, rfl⟩
    rcases accepts_iff.mp accepted with ⟨kept, extension, small⟩
    exact ⟨⟨body, holds, small⟩, extension, kept⟩

/-- A scan of a directory lists the names of the files that it takes below. -/
theorem exists_collect {workspace : Workspace} {root : Packed} {directory : Location}
    (isTree : workspace.tree.IsTree) (isDirectory : workspace.find? root = some (directory, .directory))
    (filter : ScanFilter) :
    ∃ files : List (List Packed),
      collect workspace filter [root] = .ok (files.map (Path.appendNames root)) ∧
      files.Pairwise Path.NamesPrecede ∧
      ∀ names, names ∈ files ↔ Walks workspace root names ∧ Wants workspace filter root names := by
  have nonempty := (FileTree.follow_of_find? isDirectory).1
  have isRoot : ∀ path ∈ [root], IsRoot workspace path := by
    simpa [IsRoot] using Or.inl (isDirectory_iff.mpr ⟨directory, isDirectory⟩)
  rcases collect_of_isRoot isRoot filter with ⟨paths, listed, collected, lists, taken⟩
  simp only [List.mem_singleton, exists_eq_left, takes_iff isDirectory] at taken
  have each : ∀ file ∈ listed, ∃ names,
      (Walks workspace root names ∧ Wants workspace filter root names) ∧
        Path.appendNames root names = file :=
    fun file fileMem => (taken file).mp (lists.given file fileMem)
  rcases exists_map_eq each with ⟨files, rfl, areTaken⟩
  have areParts : ∀ names ∈ files, ∀ name ∈ names, Path.IsPart name :=
    fun names namesMem => ((areTaken names namesMem).1.areParts isTree).2
  refine ⟨files, collected, ?_, ?_⟩
  · refine (List.pairwise_map.mp lists.ordered).imp_of_mem ?_
    intro names others namesMem othersMem precedes
    exact (Path.precedes_appendNames_iff nonempty (areParts names namesMem)
      (areParts others othersMem)).mp precedes
  · intro names
    refine ⟨areTaken names, ?_⟩
    intro isTaken
    have namesAreParts := (isTaken.1.areParts isTree).2
    rcases lists.complete _ ((taken _).mpr ⟨names, isTaken, rfl⟩) with ⟨file, fileMem, sameComponents⟩
    rcases List.mem_map.mp fileMem with ⟨others, othersMem, rfl⟩
    rw [Path.components_appendNames nonempty (areParts others othersMem),
      Path.components_appendNames nonempty namesAreParts, List.append_cancel_left_eq] at sameComponents
    rwa [← List.map_injective_iff.mpr Component.ofName_injective sameComponents]

/-! ## Scans without ignore files -/

section Silent

variable {workspace : Workspace} {root : Packed}

theorem isVisible_of_silent (silent : ∀ place, Ignore.IsSilent workspace.tree place)
    (directory : Location) (names : List Packed) (isDirectory : Bool) :
    isVisible workspace root directory names isDirectory = true := by
  simp [isVisible, Ignore.isIgnored_eq_false silent]

/-- Where nothing can be ignored, a walk takes what the filter accepts. -/
theorem filesBelow_of_silent (silent : ∀ place, Ignore.IsSilent workspace.tree place)
    (filter : ScanFilter) (directory : Location) :
    filesBelow workspace filter root directory =
      (workspace.tree.below directory).filterMap fun (names, _) =>
        if (fileSize? workspace (Path.appendNames root names)).any (filter.accepts names) then
          some names
        else none := by
  apply List.filterMap_congr
  rintro ⟨names, node⟩ _
  simp only [isVisible_of_silent silent, Bool.and_true]
  cases fileSize? workspace (Path.appendNames root names) <;> rfl

end Silent

end Scan

end BraceBalance
