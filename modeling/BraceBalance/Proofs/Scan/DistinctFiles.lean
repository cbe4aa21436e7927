import BraceBalance.Proofs.FileTree.LinkFree
import BraceBalance.Proofs.Ignore.Locality
import BraceBalance.Proofs.Scan.SingleRoot
import Mathlib.Data.List.Pairwise

/-!
# Files of a scan that are the same file

A scan tells its files apart by the components of their paths. Where there are no links and no path
goes up, the components tell which file a path leads to, but they tell one thing more: whether the
path begins with a single dot. A file is therefore listed twice if a path of the scan with such a dot
takes it and so does one without, and never otherwise, whatever else there is in the spelling of the
paths and however they overlap.
-/

namespace BraceBalance

theorem Path.Precedes.components_ne {path other : Packed} (precedes : Precedes path other) :
    components path ≠ components other := by
  intro same
  rw [Precedes, compare_eq_eq_iff.mpr same] at precedes
  contradiction

namespace Scan

/-- A path leads to the file at a place. -/
def LeadsToFile (workspace : Workspace) (path : Packed) (place : Location) : Prop :=
  ∃ body, workspace.find? path = some (place, .file body)

/-- A path of a scan takes the file at a place, itself or from below it. -/
def TakesFile (workspace : Workspace) (filter : ScanFilter) (root : Packed) (place : Location) :
    Prop :=
  ∃ path, Takes workspace filter root path ∧ LeadsToFile workspace path place

/-- A path that begins with a dot takes a file, and so does a path that does not. -/
inductive TakenBothWays (workspace : Workspace) (filter : ScanFilter) (roots : List Packed) :
    Prop where
  | intro {dotted plain : Packed} {place : Location} (dottedMem : dotted ∈ roots)
      (isDotted : Path.isDotted dotted = true) (takes : TakesFile workspace filter dotted place)
      (plainMem : plain ∈ roots) (notDotted : Path.isDotted plain = false)
      (takesToo : TakesFile workspace filter plain place) : TakenBothWays workspace filter roots

/-- There is no file to which both paths lead. -/
def LeadApart (workspace : Workspace) (left right : Packed) : Prop :=
  ∀ place, LeadsToFile workspace left place → ¬LeadsToFile workspace right place

instance (workspace : Workspace) : Std.Symm (LeadApart workspace) :=
  ⟨fun _ _ apart place rightLeads leftLeads => apart place leftLeads rightLeads⟩

variable {workspace : Workspace} {filter : ScanFilter} {root path other : Packed}
  {place : Location} {roots files : List Packed}

/-! ## Where paths of a scan lead -/

theorem leadsToFile_of_takes (takes : Takes workspace filter root path) :
    ∃ place, LeadsToFile workspace path place := by
  rcases takes with isFile | ⟨_, ⟨⟨content, holds, _⟩, _, _⟩⟩
  · exact isFile_iff.mp isFile
  · apply isFile_iff.mp
    rw [Workspace.isFile, holds]
    rfl

theorem LeadsToFile.eq (linkFree : workspace.tree.IsLinkFree) (descends : Path.Descends path)
    (leads : LeadsToFile workspace path place) :
    place = workspace.directory ++ Path.names path := by
  rcases leads with ⟨body, found⟩
  exact Workspace.eq_of_find? linkFree descends found

/-- What is taken below a path goes down as well, and begins with a dot if this does. -/
theorem descends_of_takes (isTree : workspace.tree.IsTree) (descends : Path.Descends root)
    (takes : Takes workspace filter root path) :
    Path.Descends path ∧ Path.isDotted path = Path.isDotted root := by
  rcases takes with _ | ⟨⟨isDirectory, _, isBelow, _⟩, _⟩
  · exact ⟨descends, rfl⟩
  · have nonempty := (FileTree.follow_of_find? isDirectory).1
    have areNames := isTree.areNames_below (isTree.mem_below_iff.mp isBelow).2
    have areParts : ∀ name ∈ _, Path.IsPart name := fun name nameMem =>
      (areNames name nameMem).isPart
    refine ⟨descends.appendNames nonempty areParts ?_, Path.isDotted_appendNames nonempty areParts⟩
    intro dotsMem
    exact (areNames _ dotsMem).notDots rfl

/-! ## Files that are listed twice -/

/-- The files of a scan are those that its paths take, in their order. -/
theorem lists_of_collect (collected : collect workspace filter roots = .ok files) :
    ∃ paths, ListsInOrder paths files ∧
      ∀ path, path ∈ paths ↔ ∃ root ∈ roots, Takes workspace filter root path := by
  by_cases areRoots : ∀ root ∈ roots, IsRoot workspace root
  · rcases collect_of_isRoot areRoots filter with ⟨paths, listed, listedAre, lists, taken⟩
    rw [listedAre] at collected
    cases collected
    exact ⟨paths, lists, taken⟩
  · rcases exists_first_not_isRoot areRoots with ⟨before, root, after, rfl, earlier, notRoot⟩
    rw [collect_of_not_isRoot earlier notRoot] at collected
    contradiction

/-- What a scan without links, whose paths go down, has listed. -/
structure ListsFiles (workspace : Workspace) (filter : ScanFilter) (roots files : List Packed) :
    Prop where
  linkFree : workspace.tree.IsLinkFree
  ordered : files.Pairwise Path.Precedes
  given : ∀ file ∈ files, ∃ root ∈ roots, Takes workspace filter root file ∧
    Path.isDotted file = Path.isDotted root
  complete : ∀ root ∈ roots, ∀ place, TakesFile workspace filter root place →
    ∃ file ∈ files, LeadsToFile workspace file place ∧ Path.isDotted file = Path.isDotted root
  descends : ∀ file ∈ files, Path.Descends file

theorem listsFiles_of_collect (isTree : workspace.tree.IsTree)
    (linkFree : workspace.tree.IsLinkFree) (descend : ∀ root ∈ roots, Path.Descends root)
    (collected : collect workspace filter roots = .ok files) :
    ListsFiles workspace filter roots files := by
  rcases lists_of_collect collected with ⟨paths, lists, taken⟩
  have given : ∀ file ∈ files, ∃ root ∈ roots, Takes workspace filter root file := fun file fileMem =>
    (taken file).mp (lists.given file fileMem)
  have descends : ∀ file ∈ files, Path.Descends file := by
    intro file fileMem
    rcases given file fileMem with ⟨root, rootMem, takes⟩
    exact (descends_of_takes isTree (descend root rootMem) takes).1
  refine ⟨linkFree, lists.ordered, ?_, ?_, descends⟩
  · intro file fileMem
    rcases given file fileMem with ⟨root, rootMem, takes⟩
    exact ⟨root, rootMem, takes, (descends_of_takes isTree (descend root rootMem) takes).2⟩
  · rintro root rootMem place ⟨path, takes, leads⟩
    rcases descends_of_takes isTree (descend root rootMem) takes with ⟨pathDescends, sameDot⟩
    rcases lists.complete path ((taken path).mpr ⟨root, rootMem, takes⟩) with
      ⟨file, fileMem, sameComponents⟩
    have fileDot : Path.isDotted file = Path.isDotted path := by
      rw [Path.isDotted, Path.isDotted, sameComponents]
    refine ⟨file, fileMem, ?_, fileDot.trans sameDot⟩
    -- The listed spelling leads to some file; its names say that it is the same.
    rcases given file fileMem with ⟨_, _, fileTaken⟩
    rcases leadsToFile_of_takes fileTaken with ⟨filePlace, fileLeads⟩
    have sameNames := (descends file fileMem).names_eq pathDescends sameComponents
    rwa [fileLeads.eq linkFree (descends file fileMem), sameNames,
      ← leads.eq linkFree pathDescends] at fileLeads

namespace ListsFiles

variable (lists : ListsFiles workspace filter roots files)
include lists

theorem leads : ∀ file ∈ files,
    LeadsToFile workspace file (workspace.directory ++ Path.names file) := by
  intro file fileMem
  rcases lists.given file fileMem with ⟨root, _, takes, _⟩
  rcases leadsToFile_of_takes takes with ⟨place, leads⟩
  rwa [leads.eq lists.linkFree (lists.descends file fileMem)] at leads

/-- A file is listed at most once with a dot at the beginning, and at most once without. -/
theorem eq_of_leads {left right : Packed} (leftMem : left ∈ files) (rightMem : right ∈ files)
    (leftLeads : LeadsToFile workspace left place) (rightLeads : LeadsToFile workspace right place)
    (sameDot : Path.isDotted left = Path.isDotted right) : left = right := by
  have leftDescends := lists.descends left leftMem
  have rightDescends := lists.descends right rightMem
  have samePlace := leftLeads.eq lists.linkFree leftDescends
  rw [rightLeads.eq lists.linkFree rightDescends, List.append_cancel_left_eq] at samePlace
  have sameComponents := leftDescends.components_eq rightDescends samePlace.symm sameDot
  by_contra different
  have symmetric : Std.Symm fun path other => Path.components path ≠ Path.components other :=
    ⟨fun _ _ => Ne.symm⟩
  have components_ne := lists.ordered.imp Path.Precedes.components_ne
  exact components_ne.forall leftMem rightMem different sameComponents

theorem pairwise_leadApart_iff :
    files.Pairwise (LeadApart workspace) ↔ ¬TakenBothWays workspace filter roots := by
  constructor
  · rintro distinct ⟨dottedMem, isDotted, takes, plainMem, notDotted, takesToo⟩
    rcases lists.complete _ dottedMem _ takes with ⟨dotted, dottedListed, dottedLeads, sameDot⟩
    rcases lists.complete _ plainMem _ takesToo with ⟨plain, plainListed, plainLeads, sameNoDot⟩
    have different : dotted ≠ plain := by
      rintro rfl
      rw [sameNoDot, notDotted, isDotted] at sameDot
      contradiction
    exact distinct.forall dottedListed plainListed different _ dottedLeads plainLeads
  · intro notBothWays
    apply lists.ordered.imp_of_mem
    intro left right leftMem rightMem precedes place leftLeads rightLeads
    by_cases sameDot : Path.isDotted left = Path.isDotted right
    · rw [lists.eq_of_leads leftMem rightMem leftLeads rightLeads sameDot] at precedes
      exact precedes.components_ne rfl
    · apply notBothWays
      rcases lists.given left leftMem with ⟨leftRoot, leftRootMem, leftTaken, leftDot⟩
      rcases lists.given right rightMem with ⟨rightRoot, rightRootMem, rightTaken, rightDot⟩
      rw [leftDot, rightDot] at sameDot
      cases leftIs : Path.isDotted leftRoot with
      | true =>
          have rightIs : Path.isDotted rightRoot = false := by simpa [leftIs] using sameDot
          exact ⟨leftRootMem, leftIs, ⟨left, leftTaken, leftLeads⟩, rightRootMem, rightIs,
            ⟨right, rightTaken, rightLeads⟩⟩
      | false =>
          have rightIs : Path.isDotted rightRoot = true := by simpa [leftIs] using sameDot
          exact ⟨rightRootMem, rightIs, ⟨right, rightTaken, rightLeads⟩, leftRootMem, leftIs,
            ⟨left, leftTaken, leftLeads⟩⟩

end ListsFiles

end Scan

end BraceBalance
