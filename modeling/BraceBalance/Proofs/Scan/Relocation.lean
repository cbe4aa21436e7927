import Mathlib
import BraceBalance.Proofs.Glob.DirectoryPattern
import BraceBalance.Proofs.Ignore.Locality
import BraceBalance.Proofs.Scan.PathFilter
import BraceBalance.Proofs.Scan.SingleRoot

/-!
# Scans in two places

Two directories that hold the same give the same names, wherever they are and however they are spelled,
if nothing above them or of the user has a say and no link leads to different files. What a walk
comes to is a matter of ignore rules, which see names below the directory only; what is taken of
it, one of those names and of sizes.
-/

namespace BraceBalance

namespace Scan

open Packed (slash)

/-! ## Sites -/

/-- A directory of a scan: where it lies, and how it is spelled. -/
structure Site where
  workspace : Workspace
  root : Packed
  directory : Location

namespace Site

/-- What stands below the directory. -/
def node? (site : Site) (names : List Packed) : Option FileNode :=
  site.workspace.tree.node? (site.directory ++ names)

/-- A directory that is walked, and of which nothing but what lies below it decides what is taken. -/
structure IsSecluded (site : Site) : Prop where
  isTree : site.workspace.tree.IsTree
  isDirectory : site.workspace.find? site.root = some (site.directory, .directory)
  notHyphen : isHyphen site.root = false
  spelledOnce : ¬Ignore.BeginsHereTwice site.root
  /-- The system takes the path of every file. -/
  short : ∀ names body, (names, .file body) ∈ site.workspace.tree.below site.directory →
    (Path.appendNames site.root names).length < FileTree.maxPathLength
  silentAbove : ∀ above, above <+: site.directory → above ≠ site.directory →
    Ignore.IsSilent site.workspace.tree above
  noGlobal : Ignore.globalRules site.workspace = [] ∨ ∀ reached, ∀ name ∈ Ignore.repositoryNames,
    site.node? (reached ++ [name]) = none

/-- The same lies below two directories, also where links lead from there. -/
structure HoldsSame (left right : Site) : Prop where
  entries : ∀ entry, entry ∈ left.workspace.tree.below left.directory ↔
    entry ∈ right.workspace.tree.below right.directory
  links : ∀ names target, (names, .link target) ∈ left.workspace.tree.below left.directory →
    fileSize? left.workspace (Path.appendNames left.root names) =
      fileSize? right.workspace (Path.appendNames right.root names)
  rules : ∀ reached, left.node? reached = some .directory →
    ¬Ignore.KeepsRules left.workspace.tree (left.directory ++ reached) →
    Ignore.SameRules left.workspace (left.directory ++ reached)
      right.workspace (right.directory ++ reached)

variable {site left right : Site} {names : List Packed} {node : FileNode}

theorem IsSecluded.nonempty (secluded : site.IsSecluded) : site.root ≠ [] :=
  (FileTree.follow_of_find? secluded.isDirectory).1

theorem IsSecluded.node?_nil (secluded : site.IsSecluded) : site.node? [] = some .directory := by
  rw [Site.node?, List.append_nil]
  exact FileTree.node?_of_find? secluded.isDirectory

theorem IsSecluded.mem_below_iff (secluded : site.IsSecluded) :
    (names, node) ∈ site.workspace.tree.below site.directory ↔
      names ≠ [] ∧ site.node? names = some node :=
  secluded.isTree.mem_below_iff

theorem IsSecluded.of_checked (isTree : site.workspace.tree.IsTree)
    (isDirectory : site.workspace.find? site.root = some (site.directory, .directory))
    (notHyphen : isHyphen site.root = false) (spelledOnce : ¬Ignore.BeginsHereTwice site.root)
    (short : ∀ entry ∈ site.workspace.tree.below site.directory,
      (Path.appendNames site.root entry.1).length < FileTree.maxPathLength)
    (silentAbove : ∀ above ∈ site.directory.inits, above ≠ site.directory →
      Ignore.IsSilent site.workspace.tree above)
    (noGlobal : Ignore.globalRules site.workspace = []) : site.IsSecluded where
  isTree := isTree
  isDirectory := isDirectory
  notHyphen := notHyphen
  spelledOnce := spelledOnce
  short := fun names body entryMem => short (names, .file body) entryMem
  silentAbove := fun above isAbove => silentAbove above ((List.mem_inits above _).mpr isAbove)
  noGlobal := Or.inl noGlobal

theorem HoldsSame.node?_eq (same : left.HoldsSame right) (leftSecluded : left.IsSecluded)
    (rightSecluded : right.IsSecluded) (names : List Packed) : left.node? names = right.node? names := by
  by_cases more : names = []
  · rw [more, leftSecluded.node?_nil, rightSecluded.node?_nil]
  · ext node
    have sameEntry := same.entries (names, node)
    rw [leftSecluded.mem_below_iff, rightSecluded.mem_below_iff] at sameEntry
    simpa [more] using sameEntry

theorem IsSecluded.mem_below (secluded : site.IsSecluded) (stands : site.node? names = some node)
    (notDirectory : node ≠ .directory) :
    (names, node) ∈ site.workspace.tree.below site.directory := by
  refine secluded.mem_below_iff.mpr ⟨?_, stands⟩
  rintro rfl
  rw [secluded.node?_nil] at stands
  exact notDirectory (Option.some.inj stands).symm

/-- Without links, and without files in the place of repositories, the entries are all. -/
theorem HoldsSame.of_entries (leftSecluded : left.IsSecluded)
    (entries : ∀ entry, entry ∈ left.workspace.tree.below left.directory ↔
      entry ∈ right.workspace.tree.below right.directory)
    (noLink : ∀ names target, (names, .link target) ∉ left.workspace.tree.below left.directory)
    (noNamed : ∀ names body, (names, .file body) ∈ left.workspace.tree.below left.directory →
      names.getLast? ≠ some (".git" : Packed)) :
    left.HoldsSame right where
  entries := entries
  links := fun names target entryMem => absurd entryMem (noLink names target)
  rules := by
    intro reached _ notKept
    refine absurd ⟨?_, ?_⟩ notKept
    · intro names _ above _ target stands
      rw [List.append_assoc] at stands
      exact noLink _ target (leftSecluded.mem_below stands (by simp))
    · intro body stands
      rw [List.append_assoc] at stands
      exact noNamed _ body (leftSecluded.mem_below stands (by simp)) (by simp)

theorem IsSecluded.isPart (secluded : site.IsSecluded) (stands : site.node? names = some node) :
    ∀ name ∈ names, Path.IsPart name := by
  intro name nameMem
  exact (secluded.isTree.areNames_below stands name nameMem).isPart

theorem IsSecluded.fileSize?_of_file (secluded : site.IsSecluded) (more : names ≠ [])
    {body : FileBody} (stands : site.node? names = some (.file body)) :
    fileSize? site.workspace (Path.appendNames site.root names) = some body.content.size := by
  have found := FileTree.find?_appendNames secluded.isTree secluded.isDirectory more stands
    (by simp) (secluded.short names body (secluded.mem_below_iff.mpr ⟨more, stands⟩))
  rw [fileSize?, Workspace.file?_eq_some_iff.mpr ⟨_, found⟩]
  rfl

/-- What is neither a file nor a link has no size, and however long its path is. -/
theorem IsSecluded.fileSize?_eq_none (secluded : site.IsSecluded) (more : names ≠ [])
    (stands : site.node? names = some node) (notFile : ∀ body, node ≠ .file body)
    (notLink : ∀ target, node ≠ .link target) :
    fileSize? site.workspace (Path.appendNames site.root names) = none := by
  have noFile : site.workspace.file? (Path.appendNames site.root names) = none := by
    rw [Workspace.file?, Workspace.find?]
    by_cases short : (Path.appendNames site.root names).length < FileTree.maxPathLength
    · rw [FileTree.find?_appendNames secluded.isTree secluded.isDirectory more stands notLink short]
      cases node with
      | file body => exact absurd rfl (notFile body)
      | directory | device | link => rfl
    · rw [FileTree.find?_of_long (Nat.le_of_not_lt short)]
  rw [fileSize?, noFile]
  rfl

theorem HoldsSame.fileSize?_eq (same : left.HoldsSame right) (leftSecluded : left.IsSecluded)
    (rightSecluded : right.IsSecluded) (more : names ≠ []) (stands : left.node? names = some node) :
    fileSize? left.workspace (Path.appendNames left.root names) =
      fileSize? right.workspace (Path.appendNames right.root names) := by
  have rightStands := same.node?_eq leftSecluded rightSecluded names ▸ stands
  cases node with
  | link target => exact same.links names target (leftSecluded.mem_below_iff.mpr ⟨more, stands⟩)
  | file body =>
      rw [leftSecluded.fileSize?_of_file more stands, rightSecluded.fileSize?_of_file more rightStands]
  | directory | device =>
      rw [leftSecluded.fileSize?_eq_none more stands (by simp) (by simp),
        rightSecluded.fileSize?_eq_none more rightStands (by simp) (by simp)]

theorem HoldsSame.sameRules (same : left.HoldsSame right) (leftSecluded : left.IsSecluded)
    (rightSecluded : right.IsSecluded) {reached : List Packed}
    (stands : left.node? reached = some .directory) :
    Ignore.SameRules left.workspace (left.directory ++ reached)
      right.workspace (right.directory ++ reached) := by
  by_cases keeps : Ignore.KeepsRules left.workspace.tree (left.directory ++ reached)
  · apply keeps.sameRules
    intro names
    have sameNode := same.node?_eq leftSecluded rightSecluded (reached ++ names)
    simpa [Site.node?] using sameNode
  · exact same.rules reached stands keeps

theorem HoldsSame.isIgnored_eq (same : left.HoldsSame right) (leftSecluded : left.IsSecluded)
    (rightSecluded : right.IsSecluded) (stands : left.node? names = some node) (isDirectory : Bool) :
    Ignore.isIgnored left.workspace left.root left.directory names isDirectory =
      Ignore.isIgnored right.workspace right.root right.directory names isDirectory := by
  have rulesOnTheWay : ∀ reached, reached <+: names → reached ≠ names →
      Ignore.SameRules left.workspace (left.directory ++ reached)
        right.workspace (right.directory ++ reached) := by
    rintro reached ⟨rest, rfl⟩ shorter
    have more : rest ≠ [] := by simpa using shorter
    rw [Site.node?, ← List.append_assoc] at stands
    exact same.sameRules leftSecluded rightSecluded (leftSecluded.isTree.node?_above more stands)
  have sameScopes := Ignore.scopesBelow_eq leftSecluded.nonempty leftSecluded.spelledOnce
    rightSecluded.nonempty rightSecluded.spelledOnce (leftSecluded.isPart stands) rulesOnTheWay
  rw [Ignore.isIgnored_eq leftSecluded.silentAbove leftSecluded.noGlobal,
    Ignore.isIgnored_eq rightSecluded.silentAbove rightSecluded.noGlobal, sameScopes]

theorem IsSecluded.node?_take (secluded : site.IsSecluded) (stands : site.node? names = some node)
    (count : Nat) : ∃ reached, site.node? (names.take count) = some reached := by
  by_cases whole : names.take count = names
  · exact ⟨node, by rw [whole]; exact stands⟩
  · have more : names.drop count ≠ [] := by
      intro nothing
      have split := List.take_append_drop count names
      rw [nothing, List.append_nil] at split
      exact whole split
    have whole : site.workspace.tree.node?
        (site.directory ++ names.take count ++ names.drop count) = some node := by
      rw [List.append_assoc, List.take_append_drop]
      exact stands
    exact ⟨.directory, secluded.isTree.node?_above more whole⟩

theorem HoldsSame.isVisible_eq (same : left.HoldsSame right) (leftSecluded : left.IsSecluded)
    (rightSecluded : right.IsSecluded) (stands : left.node? names = some node) (isDirectory : Bool) :
    isVisible left.workspace left.root left.directory names isDirectory =
      isVisible right.workspace right.root right.directory names isDirectory := by
  have sameIgnored : ∀ index,
      (!Ignore.isIgnored left.workspace left.root left.directory (names.take (index + 1))
        (index + 1 < names.length || isDirectory)) =
      !Ignore.isIgnored right.workspace right.root right.directory (names.take (index + 1))
        (index + 1 < names.length || isDirectory) := by
    intro index
    rcases leftSecluded.node?_take stands (index + 1) with ⟨reached, standsReached⟩
    rw [same.isIgnored_eq leftSecluded rightSecluded standsReached]
  exact List.all_congr rfl sameIgnored

end Site

theorem walks_iff {site : Site} (secluded : site.IsSecluded) {names : List Packed} :
    Walks site.workspace site.root names ↔ ∃ node, names ≠ [] ∧ site.node? names = some node ∧
      isVisible site.workspace site.root site.directory names node.isDirectory := by
  constructor
  · rintro ⟨isDirectory, _, isBelow, visible⟩
    rw [secluded.isDirectory] at isDirectory
    cases isDirectory
    rcases secluded.mem_below_iff.mp isBelow with ⟨more, stands⟩
    exact ⟨_, more, stands, visible⟩
  · rintro ⟨node, more, stands, visible⟩
    exact .entry secluded.isDirectory secluded.notHyphen
      (secluded.mem_below_iff.mpr ⟨more, stands⟩) visible

/-- Wherever a directory is and however it is spelled, a scan of it gives the same names in the same
order. Its walk comes only to paths from which the path of the directory can be taken off. -/
theorem collect_relocated (filter : ScanFilter) :
    (∀ workspace root names, workspace.tree.IsTree → Walks workspace root names →
      Path.behind? (Path.appendNames root names) root = some (Text.join [slash] names) ∧
      ∀ size, filter.acceptsPath root (Path.appendNames root names) size =
        filter.accepts names size) ∧
    ∀ left right : Site, left.IsSecluded → right.IsSecluded → left.HoldsSame right →
      (∀ names, Walks left.workspace left.root names ↔ Walks right.workspace right.root names) ∧
      ∃ files : List (List Packed),
        collect left.workspace filter [left.root] =
          .ok (files.map (Path.appendNames left.root)) ∧
        collect right.workspace filter [right.root] =
          .ok (files.map (Path.appendNames right.root)) := by
  constructor
  · intro workspace root names isTree walks
    rcases walks.areParts isTree with ⟨more, areParts⟩
    rcases walks with ⟨isDirectory, _, _, _⟩
    have nonempty := (FileTree.follow_of_find? isDirectory).1
    exact ⟨Path.behind?_appendNames nonempty more areParts,
      filter.acceptsPath_appendNames nonempty more areParts⟩
  · intro left right leftSecluded rightSecluded same
    have sameWalks : ∀ names, Walks left.workspace left.root names ↔
        Walks right.workspace right.root names := by
      intro names
      rw [walks_iff leftSecluded, walks_iff rightSecluded]
      apply exists_congr
      intro node
      rw [← same.node?_eq leftSecluded rightSecluded names]
      refine and_congr_right fun _ => and_congr_right fun stands => ?_
      rw [same.isVisible_eq leftSecluded rightSecluded stands]
    refine ⟨sameWalks, ?_⟩
    rcases exists_collect leftSecluded.isTree leftSecluded.isDirectory filter with
      ⟨files, collected, ordered, taken⟩
    rcases exists_collect rightSecluded.isTree rightSecluded.isDirectory filter with
      ⟨rightFiles, rightCollected, rightOrdered, rightTaken⟩
    have sameFiles : rightFiles = files := by
      apply rightOrdered.eq_of_mem_iff ordered
      intro names
      rw [taken, rightTaken, ← sameWalks]
      refine and_congr_right fun walks => ?_
      rcases (walks_iff leftSecluded).mp walks with ⟨node, more, stands, _⟩
      rw [wants_iff, wants_iff, same.fileSize?_eq leftSecluded rightSecluded more stands]
    exact ⟨files, collected, sameFiles ▸ rightCollected⟩

/-! ## A project in two places -/

def projectEntries : List (Location × FileNode) :=
  [([".ignore"], .plain ⟨#[47, 42, 46, 99]⟩), (["lib"], .directory), (["lib", "x.c"], .plain ⟨#[]⟩),
    (["y.c"], .plain ⟨#[]⟩)]

/-- A project of a few files, of which its ignore file ignores one. -/
def projectSite (place working : Location) (root : Packed) : Site where
  workspace := {
    tree := ⟨((List.range place.length).map fun count => (place.take (count + 1), .directory)) ++
      projectEntries.map fun entry => (place ++ entry.1, entry.2)⟩
    directory := working
    environment := [] }
  root := root
  directory := place

def plainSite : Site :=
  projectSite ["a"] [] "a"

/-- The same project in a directory of builds, spelled with dots and slashes. -/
def spelledSite : Site :=
  projectSite ["target", "b"] ["target"] ".//b/.//"

def targetFilter : ScanFilter :=
  ⟨["c"], [⟨Glob.directoryTokens "target"⟩], 9⟩

theorem plainSite_isSecluded : plainSite.IsSecluded :=
  .of_checked (by decide) (by cbv) (by decide) (by decide) (by decide) (by decide) (by cbv)

theorem spelledSite_isSecluded : spelledSite.IsSecluded :=
  .of_checked (by decide) (by cbv) (by decide) (by decide) (by decide) (by decide) (by cbv)

theorem plainSite_holdsSame : plainSite.HoldsSame spelledSite := by
  have below : plainSite.workspace.tree.below plainSite.directory = projectEntries := by rfl
  have spelledBelow : spelledSite.workspace.tree.below spelledSite.directory = projectEntries := by rfl
  apply Site.HoldsSame.of_entries plainSite_isSecluded
  · intro entry
    rw [below, spelledBelow]
  · intro names target
    rw [below]
    simp [projectEntries]
  · rw [below]
    have checked : ∀ entry ∈ projectEntries, entry.1.getLast? ≠ some (".git" : Packed) := by
      decide
    exact fun names body entryMem => checked _ entryMem

/-- The names that lead to the place do not count, although a pattern excludes one of them. -/
theorem collect_relocated_project :
    plainSite.workspace.tree.IsTree ∧ Walks plainSite.workspace plainSite.root ["lib"] ∧
      Path.behind? (Path.appendNames plainSite.root ["lib"]) plainSite.root =
        some ("lib" : Packed) ∧
    plainSite.IsSecluded ∧ spelledSite.IsSecluded ∧ plainSite.HoldsSame spelledSite ∧
      ∃ files : List (List Packed),
        collect plainSite.workspace targetFilter [plainSite.root] =
          .ok (files.map (Path.appendNames plainSite.root)) ∧
        collect spelledSite.workspace targetFilter [spelledSite.root] =
          .ok (files.map (Path.appendNames spelledSite.root)) := by
  rcases collect_relocated targetFilter with ⟨taken, relocated⟩
  have isTree := plainSite_isSecluded.isTree
  have walks : Walks plainSite.workspace plainSite.root ["lib"] := by
    refine (walks_iff plainSite_isSecluded).mpr ⟨.directory, by decide, rfl, ?_⟩
    cbv
  refine ⟨isTree, walks, (taken _ _ _ isTree walks).1, plainSite_isSecluded, spelledSite_isSecluded,
    plainSite_holdsSame, ?_⟩
  exact (relocated _ _ plainSite_isSecluded spelledSite_isSecluded plainSite_holdsSame).2

/-! ## What else counts -/

theorem isVisible_singleton (workspace : Workspace) (root : Packed) (directory : Location)
    (name : Packed) (isDirectory : Bool) :
    isVisible workspace root directory [name] isDirectory =
      !Ignore.isIgnored workspace root directory [name] isDirectory := by
  simp [isVisible]

theorem scopesBelow_singleton (workspace : Workspace) (root : Packed) (location : Location)
    (name : Packed) :
    Ignore.scopesBelow workspace root location [name] =
      [.ofDirectory workspace location root (Ignore.dropHere (Path.appendNames root [name]))] := by
  simp [Ignore.scopesBelow, Path.appendNames]

def sourceFilter : ScanFilter :=
  ⟨["c"], [], 0⟩

/-- A directory with an ignore file for what lies in it. -/
def ignoringWorkspace : Workspace where
  tree := ⟨[(["a"], .directory), (["a", ".ignore"], .plain ⟨#[47, 42]⟩),
    (["a", "b.c"], .plain ⟨#[]⟩)]⟩
  directory := []
  environment := []

/-- A directory with a name that is a hyphen. -/
def hyphenWorkspace : Workspace where
  tree := ⟨[(["-"], .directory), (["-", "b.c"], .plain ⟨#[]⟩)]⟩
  directory := []
  environment := []

/-- Two directories with a link, of which one leads to a file outside and one to nothing. -/
def linkingWorkspace : Workspace where
  tree := ⟨[(["a"], .directory), (["a", "b.c"], .link "../c"), (["c"], .plain ⟨#[]⟩),
    (["d"], .directory), (["d", "a"], .directory), (["d", "a", "b.c"], .link "../c")]⟩
  directory := []
  environment := []

/-- A repository, and a user with an ignore file that names its directory. -/
def globalWorkspace : Workspace where
  tree := ⟨[(["git"], .directory), (["git", "ignore"], .plain ⟨#[97, 47, 42]⟩), (["a"], .directory),
    (["a", ".git"], .directory), (["a", "b.c"], .plain ⟨#[]⟩)]⟩
  directory := []
  environment := [("XDG_CONFIG_HOME", ".")]

/-- The ignore file decides by the path as it is seen from the root. -/
theorem isVisible_ignoringWorkspace (root : Packed) :
    isVisible ignoringWorkspace root ["a"] ["b.c"] false =
      !decide (Ignore.verdict? (Ignore.rulesOfFile ⟨#[47, 42]⟩)
        (Ignore.seenFrom root (Ignore.dropHere (Path.appendNames root ["b.c"]))) false =
          some .ignored) := by
  have silent : ∀ above ∈ List.inits [("a" : Packed)], above ≠ [("a" : Packed)] →
      Ignore.IsSilent ignoringWorkspace.tree above := by decide
  have noGlobal : Ignore.globalRules ignoringWorkspace = [] := by cbv
  have found : Ignore.nodeFrom? ignoringWorkspace.tree ["a"] [".ignore"] =
      some (.plain ⟨#[47, 42]⟩) := by cbv
  have own : Ignore.rulesFrom ignoringWorkspace.tree ["a"] [".ignore"] =
      Ignore.rulesOfFile ⟨#[47, 42]⟩ := by
    rw [Ignore.rulesFrom, found]
    rfl
  have noRepository : ∀ path,
      (Ignore.Scope.ofDirectory ignoringWorkspace ["a"] root path).hasRepository = false :=
    Ignore.hasRepository_eq_false (by decide) root
  rw [isVisible_singleton, Ignore.isIgnored_eq
      (fun above isAbove => silent above ((List.mem_inits above _).mpr isAbove)) (Or.inl noGlobal),
    Ignore.verdictBelow?, scopesBelow_singleton,
    Ignore.repositoryScopes_eq_nil (by simpa using noRepository _), Ignore.nearestVerdict?,
    List.findSome?_singleton]
  simp only [Ignore.Scope.ofDirectory, own]
  cases Ignore.verdict? (Ignore.rulesOfFile ⟨#[47, 42]⟩)
        (Ignore.seenFrom root (Ignore.dropHere (Path.appendNames root ["b.c"]))) false <;> rfl

/-- The ignore file of the user decides by the path as it is seen from the working directory. -/
theorem isVisible_globalWorkspace (root : Packed) :
    isVisible globalWorkspace root ["a"] ["b.c"] false =
      !decide (Ignore.globalVerdict? globalWorkspace (Path.appendNames root ["b.c"]) false =
        some .ignored) := by
  have own : Ignore.rulesFrom globalWorkspace.tree ["a"] [".ignore"] = [] := by cbv
  have ofRepository : Ignore.rulesFrom globalWorkspace.tree ["a"] [".gitignore"] = [] := by cbv
  have noExcludes : Ignore.excludesOf globalWorkspace ["a"] = [] := by cbv
  have hasGit : (Ignore.nodeFrom? globalWorkspace.tree ["a"] [".git"]).isSome = true := by cbv
  have silent : Ignore.IsSilent globalWorkspace.tree [] := by decide
  have above : Ignore.scopesAbove globalWorkspace root ["a"] ["b.c"] =
      [.ofDirectory globalWorkspace [] (Path.ofLocation []) (Ignore.spelledFromRoot root ["a"]
        (Ignore.dropHere (Path.appendNames root ["b.c"])))] := rfl
  have silentAbove : ∀ scope ∈ Ignore.scopesAbove globalWorkspace root ["a"] ["b.c"],
      scope.ownRules = [] ∧ scope.hasRepository = false := by
    rw [above, List.forall_mem_singleton]
    exact silent.ofDirectory _ _
  rw [isVisible_singleton, Ignore.isIgnored,
    Ignore.repositoryScopes_append fun scope scopeMem => (silentAbove scope scopeMem).2,
    Ignore.nearestVerdict?_append fun scope scopeMem => (silentAbove scope scopeMem).1,
    scopesBelow_singleton]
  simp only [Ignore.Scope.ofDirectory, own, ofRepository, noExcludes, hasGit]
  rfl

/-- A scan of a directory in which the filter wants one file. -/
theorem collect_source {workspace : Workspace} {root other : Packed} {node : FileNode}
    (found : workspace.find? root = some ([("a" : Packed)], .directory))
    (notHyphen : isHyphen root = false)
    (below : workspace.tree.below ["a"] = [([other], node), ([("b.c" : Packed)], .plain ⟨#[]⟩)])
    (refused : ∀ size, sourceFilter.accepts [other] size = false)
    (size : fileSize? workspace (Path.appendNames root ["b.c"]) = some 0) :
    collect workspace sourceFilter [root] =
      .ok (if isVisible workspace root ["a"] ["b.c"] false then [Path.appendNames root ["b.c"]]
        else []) := by
  have accepted : sourceFilter.accepts ["b.c"] 0 = true := rfl
  have files : filesBelow workspace sourceFilter root ["a"] =
      if isVisible workspace root ["a"] ["b.c"] false then [[("b.c" : Packed)]] else [] := by
    rw [filesBelow, below, List.filterMap_cons_none, List.filterMap_cons, List.filterMap_nil]
    · simp only [size, accepted, FileNode.isDirectory, Bool.true_and]
      cases isVisible workspace root ["a"] ["b.c"] false <;> rfl
    · simp only [refused, Bool.false_and]
      split <;> rfl
  rw [collect_of_find? found notHyphen, files]
  split <;> rfl

theorem collect_ignoringWorkspace : collect ignoringWorkspace sourceFilter ["a"] = .ok [] ∧
    collect ignoringWorkspace sourceFilter ["././a"] = .ok ["././a/b.c"] := by
  have refused : ∀ size, sourceFilter.accepts [".ignore"] size = false := fun _ => rfl
  constructor
  · have seen : Ignore.seenFrom "a" (Ignore.dropHere (Path.appendNames "a" ["b.c"])) = "b.c" := rfl
    have ignored : Ignore.verdict? (Ignore.rulesOfFile ⟨#[47, 42]⟩) "b.c" false = some .ignored := by
      cbv
    rw [collect_source (by cbv) (by decide) rfl refused (by cbv), isVisible_ignoringWorkspace, seen,
      ignored]
    rfl
  · have seen : Ignore.seenFrom "././a" (Ignore.dropHere (Path.appendNames "././a" ["b.c"])) =
      "a/b.c" := rfl
    have ignored : Ignore.verdict? (Ignore.rulesOfFile ⟨#[47, 42]⟩) "a/b.c" false = none := by
      cbv
    rw [collect_source (by cbv) (by decide) rfl refused (by cbv), isVisible_ignoringWorkspace, seen,
      ignored]
    rfl

theorem collect_globalWorkspace : collect globalWorkspace sourceFilter ["a"] = .ok [] ∧
    collect globalWorkspace sourceFilter ["a//"] = .ok ["a//b.c"] := by
  have refused : ∀ size, sourceFilter.accepts [".git"] size = false := fun _ => rfl
  have rules : Ignore.globalRules globalWorkspace = Ignore.rulesOfFile ⟨#[97, 47, 42]⟩ := by
    have named : Ignore.globalFile? globalWorkspace = some ("./git/ignore" : Packed) := by
      cbv
    have holds : globalWorkspace.fileContent? "./git/ignore" = some ⟨#[97, 47, 42]⟩ := by cbv
    rw [Ignore.globalRules, named, Option.bind_some, holds]
  constructor
  · have seen : Ignore.seenFrom (Path.ofLocation globalWorkspace.directory)
      (Ignore.dropHere (Path.appendNames "a" ["b.c"])) = "a/b.c" := rfl
    have ignored : Ignore.verdict? (Ignore.rulesOfFile ⟨#[97, 47, 42]⟩) "a/b.c" false =
      some .ignored := by cbv
    rw [collect_source (by cbv) (by decide) rfl refused (by cbv), isVisible_globalWorkspace,
      Ignore.globalVerdict?, rules, seen, ignored]
    rfl
  · have seen : Ignore.seenFrom (Path.ofLocation globalWorkspace.directory)
      (Ignore.dropHere (Path.appendNames "a//" ["b.c"])) = "a//b.c" := rfl
    have ignored : Ignore.verdict? (Ignore.rulesOfFile ⟨#[97, 47, 42]⟩) "a//b.c" false = none := by
      cbv
    rw [collect_source (by cbv) (by decide) rfl refused (by cbv), isVisible_globalWorkspace,
      Ignore.globalVerdict?, rules, seen, ignored]
    rfl

theorem collect_hyphenWorkspace : collect hyphenWorkspace sourceFilter ["./-"] = .ok ["./-/b.c"] ∧
    collect hyphenWorkspace sourceFilter ["-/"] = .ok [] := by
  constructor
  · have silent : ∀ place, Ignore.IsSilent hyphenWorkspace.tree place :=
      Ignore.isSilent_of_notMem (by decide)
    have found : hyphenWorkspace.find? "./-" = some ([("-" : Packed)], .directory) := by cbv
    rw [collect_of_find? found (by decide), filesBelow_of_silent silent]
    cbv
  · cbv

theorem collect_linkingWorkspace : collect linkingWorkspace sourceFilter ["a"] = .ok ["a/b.c"] ∧
    collect linkingWorkspace sourceFilter ["d/a"] = .ok [] := by
  have silent : ∀ place, Ignore.IsSilent linkingWorkspace.tree place :=
    Ignore.isSilent_of_notMem (by decide)
  constructor
  · have found : linkingWorkspace.find? "a" = some ([("a" : Packed)], .directory) := by cbv
    have below : linkingWorkspace.tree.below ["a"] = [([("b.c" : Packed)], .link "../c")] := rfl
    have size : fileSize? linkingWorkspace (Path.appendNames "a" ["b.c"]) = some 0 := by cbv
    rw [collect_of_find? found (by decide), filesBelow_of_silent silent, below]
    simp only [List.filterMap_cons, size]
    rfl
  · have found : linkingWorkspace.find? "d/a" = some ([("d" : Packed), "a"], .directory) := by cbv
    have below : linkingWorkspace.tree.below ["d", "a"] = [([("b.c" : Packed)], .link "../c")] := rfl
    have noSize : fileSize? linkingWorkspace (Path.appendNames "d/a" ["b.c"]) = none := by cbv
    rw [collect_of_find? found (by decide), filesBelow_of_silent silent, below]
    simp only [List.filterMap_cons, noSize]
    rfl

/-- A second single dot at the beginning of a root, a slash behind a hyphen, a link that leads out of
the directory and an ignore file of the user make a difference, with nothing above the root. -/
theorem collect_not_relative :
    (ignoringWorkspace.find? "a" = some ([("a" : Packed)], .directory) ∧
      ignoringWorkspace.find? "././a" = some ([("a" : Packed)], .directory) ∧
      (∀ name ∈ ([".ignore", ".gitignore", ".git", ".jj"] : List Packed),
        ignoringWorkspace.tree.node? [name] = none) ∧
      collect ignoringWorkspace sourceFilter ["a"] = .ok [] ∧
      collect ignoringWorkspace sourceFilter ["././a"] = .ok ["././a/b.c"]) ∧
    (collect hyphenWorkspace sourceFilter ["./-"] = .ok ["./-/b.c"] ∧
      collect hyphenWorkspace sourceFilter ["-/"] = .ok []) ∧
    (collect linkingWorkspace sourceFilter ["a"] = .ok ["a/b.c"] ∧
      collect linkingWorkspace sourceFilter ["d/a"] = .ok []) ∧
    (collect globalWorkspace sourceFilter ["a"] = .ok [] ∧
      collect globalWorkspace sourceFilter ["a//"] = .ok ["a//b.c"]) := by
  refine ⟨⟨?_, ?_, by decide, collect_ignoringWorkspace⟩,
    collect_hyphenWorkspace, collect_linkingWorkspace, collect_globalWorkspace⟩
  · cbv
  · cbv

end Scan

end BraceBalance
