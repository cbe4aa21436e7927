import BraceBalance.Proofs.FileTree.Growth
import BraceBalance.Proofs.Outcome

/-!
# Creating directories and writing files

What creating directories and writing a file does to a workspace: nothing that stood elsewhere is
touched, and besides the file nothing comes but directories, to which the given paths lead. A file
that is opened and cannot be filled to its end holds a beginning of what was to be written.
-/

namespace BraceBalance

theorem Disk.fill_eq (disk : Disk) (content : ByteArray) :
    disk.fill content = (content, none) ∨ ∃ count error, count < content.size ∧
      disk.fill content = (content.extract 0 count, some error) := by
  unfold fill
  split
  · exact .inl rfl
  · rename_i count error _
    by_cases fits : content.size ≤ count
    · exact .inl (if_pos fits)
    · exact .inr ⟨count, error, Nat.lt_of_not_le fits, if_neg fits⟩

namespace Workspace

theorem find?_eq_some_iff {workspace : Workspace} {path : Packed} {location : Location}
    {node : FileNode} :
    workspace.find? path = some (location, node) ↔
      workspace.locate path = .ok (.found location node) :=
  FileTree.find?_eq_some_iff

theorem pathExists_of_find? {workspace : Workspace} {path : Packed} {place : Location × FileNode}
    (found : workspace.find? path = some place) : workspace.pathExists path = true := by
  rw [pathExists, found]
  rfl

/-- The path is one that the system follows name by name. -/
structure Accepts (path : Packed) : Prop where
  noZero : ¬path.contains 0 = true
  notEmpty : ¬path.isEmpty = true
  short : ¬path.length ≥ FileTree.maxPathLength

theorem locate_eq_ok_iff {tree : FileTree} {creating : Bool} {working : Location} {path : Packed}
    {place : Place} :
    tree.locate creating working path = .ok place ↔
      Accepts path ∧ tree.follow creating FileTree.maxLinks
        (if Path.isAbsolute path then [] else working) (Path.steps path) = .ok place := by
  unfold FileTree.locate
  constructor
  · intro located
    split at located
    · cases located
    split at located
    · cases located
    split at located
    · cases located
    exact ⟨⟨‹_›, ‹_›, ‹_›⟩, located⟩
  · rintro ⟨accepts, followed⟩
    rw [if_neg accepts.noZero, if_neg accepts.notEmpty, if_neg accepts.short, followed]

theorem directoryOf_eq_ok {workspace : Workspace} {path : Packed} {names : List Packed}
    {location : Location} (reached : workspace.directoryOf path names = .ok location) :
    Accepts path ∧ workspace.tree.follow false FileTree.maxLinks
      (if Path.isAbsolute path then [] else workspace.directory) names =
        .ok (.found location .directory) := by
  unfold directoryOf at reached
  dsimp only at reached
  split at reached
  · cases reached
  split at reached
  · cases reached
  split at reached
  · cases reached
  refine ⟨⟨‹_›, ‹_›, ‹_›⟩, ?_⟩
  rw [Outcome.bind_eq_ok_iff] at reached
  rcases reached with ⟨place, followed, isDirectory⟩
  split at isDirectory
  · cases isDirectory
    exact followed
  · cases isDirectory
  · cases isDirectory

/-! ## Growth -/

/-- Elsewhere than at the written location everything is as it was, but for new directories, to
which some of the paths lead. Nothing but a file is replaced at the written location. -/
structure Grows (before after : Workspace) (written? : Option Location) (paths : List Packed) :
    Prop where
  directory : after.directory = before.directory
  environment : after.environment = before.environment
  disk : after.disk = before.disk
  keepsNodes : before.tree.KeepsNodes after.tree
  kept : ∀ location node, written? ≠ some location → before.tree.node? location = some node →
    after.tree.node? location = some node
  gained : ∀ location node, written? ≠ some location → before.tree.node? location = none →
    after.tree.node? location = some node →
      node = .directory ∧ ∃ path ∈ paths, after.find? path = some (location, .directory)

/-- A path leads in the grown workspace where it led before. -/
theorem find?_of_keepsNodes {before after : Workspace}
    (directory : after.directory = before.directory)
    (keeps : before.tree.KeepsNodes after.tree) {creating : Bool} {path : Packed} {place : Place}
    {node : FileNode}
    (located : before.tree.locate creating before.directory path = .ok place)
    (stands : after.tree.node? place.location = some node)
    (notLink : ∀ target, node ≠ .link target) :
    after.find? path = some (place.location, node) := by
  rcases locate_eq_ok_iff.mp located with ⟨accepts, followed⟩
  rw [find?_eq_some_iff, locate, directory, locate_eq_ok_iff]
  exact ⟨accepts, keeps.follow_eq followed stands notLink⟩

namespace Grows

variable {before middle after : Workspace} {written? : Option Location} {paths : List Packed}

theorem refl (workspace : Workspace) (paths : List Packed) :
    workspace.Grows workspace none paths where
  directory := rfl
  environment := rfl
  disk := rfl
  keepsNodes := FileTree.keepsNodes_of_forall fun _ _ stands => stands
  kept _ _ _ stands := stands
  gained _ _ _ absent stands := by
    rw [absent] at stands
    cases stands

theorem mono (grows : before.Grows after written? paths) {more : List Packed}
    (subset : paths ⊆ more) : before.Grows after written? more where
  directory := grows.directory
  environment := grows.environment
  disk := grows.disk
  keepsNodes := grows.keepsNodes
  kept := grows.kept
  gained location node elsewhere absent stands := by
    rcases grows.gained location node elsewhere absent stands with
      ⟨isDirectory, path, pathMem, found⟩
    exact ⟨isDirectory, path, subset pathMem, found⟩

theorem trans (first : before.Grows middle none paths)
    (second : middle.Grows after written? paths) : before.Grows after written? paths where
  directory := second.directory.trans first.directory
  environment := second.environment.trans first.environment
  disk := second.disk.trans first.disk
  keepsNodes := first.keepsNodes.trans second.keepsNodes
  kept location node elsewhere stands :=
    second.kept location node elsewhere (first.kept location node (by simp) stands)
  gained location node elsewhere absent stands := by
    cases between : middle.tree.node? location with
    | none => exact second.gained location node elsewhere between stands
    | some held =>
        rcases first.gained location held (by simp) absent between with
          ⟨rfl, path, pathMem, found⟩
        have kept := second.kept location .directory elsewhere between
        rw [kept, Option.some.injEq] at stands
        refine ⟨stands.symm, path, pathMem, ?_⟩
        exact find?_of_keepsNodes second.directory second.keepsNodes
          (find?_eq_some_iff.mp found) kept (by simp)

end Grows

/-! ## Working directories of a grown workspace -/

theorem HasDirectory.of_grows {before after : Workspace} (hasDirectory : before.HasDirectory)
    {written? : Option Location} {paths : List Packed} (grows : before.Grows after written? paths) :
    after.HasDirectory where
  areNames := by
    rw [grows.directory]
    exact hasDirectory.areNames
  directories above isAbove := by
    rw [grows.directory] at isAbove
    exact grows.keepsNodes.directory (hasDirectory.directories above isAbove)

theorem ReachesFromRoot.of_grows {before after : Workspace} {path : Packed}
    (reaches : before.ReachesFromRoot path) {written? : Option Location} {paths : List Packed}
    (grows : before.Grows after written? paths) : after.ReachesFromRoot path := by
  rcases reaches with absolute | ⟨hasDirectory, short⟩
  · exact .inl absolute
  · refine .inr ⟨hasDirectory.of_grows grows, ?_⟩
    rw [absolutePath, grows.directory]
    exact short

/-! ## Directories -/

/-- A path leads to a directory whose name is the last on it, with or without a slash at the end. -/
theorem follow_steps {tree : FileTree} {links : Nat} {location parent : Location}
    {path name : Packed} (isLast : (Path.leadingSteps path).getLast? = some name) (notDot : name ≠ ".")
    (notDots : name ≠ "..") (short : ¬name.length > FileTree.maxNameLength)
    (reached : tree.follow false links location (Path.leadingSteps path).dropLast =
      .ok (.found parent .directory))
    (there : tree.node? (parent ++ [name]) = some .directory) :
    tree.follow false links location (Path.steps path) =
      .ok (.found (parent ++ [name]) .directory) := by
  have leading : Path.leadingSteps path = (Path.leadingSteps path).dropLast ++ [name] :=
    (List.dropLast_append_getLast? name isLast).symm
  have notEmpty : name ≠ [] := by
    have nameMem : name ∈ Path.leadingSteps path := List.mem_of_getLast? isLast
    simpa using (List.mem_filter.mp nameMem).2
  rcases FileTree.follow_append_of_directory reached with ⟨left, goesOn⟩
  rw [Path.steps_eq_leadingSteps, leading, List.append_assoc, goesOn, List.singleton_append,
    FileTree.follow_entry (FileTree.node?_of_follow reached) (by simpa using ⟨notEmpty, notDot⟩)
      notDots short there (by simp)]
  cases Path.endsWithSlash path with
  | false => rw [if_neg (by simp), FileTree.follow, there]
  | true => rw [if_pos rfl, FileTree.follow_idle there (by simp), FileTree.follow, there]

theorem filter_steps (path : Packed) :
    (Path.steps path).filter (· ≠ []) = Path.leadingSteps path := by
  rw [Path.steps_eq_leadingSteps, List.filter_append]
  have kept : (Path.leadingSteps path).filter (· ≠ []) = Path.leadingSteps path := by
    simp [Path.leadingSteps, List.filter_filter]
  rw [kept]
  cases Path.endsWithSlash path <;> simp

theorem createDirectory_eq_ok {workspace after : Workspace} {path : Packed}
    (created : workspace.createDirectory path = .ok after) :
    ∃ location, workspace.tree.node? location = none ∧
      after = workspace.insert location .directory ∧
      after.find? path = some (location, .directory) := by
  unfold createDirectory at created
  rw [filter_steps] at created
  rcases Outcome.bind_eq_ok_iff.mp created with ⟨parent, reached, made⟩
  clear created
  rcases directoryOf_eq_ok reached with ⟨accepts, followed⟩
  dsimp only at made
  split at made
  · cases made
  rename_i name isLast
  split at made
  · cases made
  rename_i notDots
  split at made
  · cases made
  rename_i short
  split at made
  · cases made
  rename_i vacant
  split at made
  · cases made
  cases made
  simp only [Bool.or_eq_true, decide_eq_true_eq, not_or] at notDots
  have keeps := FileTree.keepsNodes_insert_of_vacant vacant .directory
  have there : (workspace.tree.insert (parent ++ [name]) .directory).node? (parent ++ [name]) =
      some .directory := by
    rw [FileTree.node?_insert _ (by simp), if_pos rfl]
  have parentStands := keeps.directory (FileTree.node?_of_follow followed)
  have parentReached := keeps.follow_eq followed parentStands (by simp)
  refine ⟨parent ++ [name], vacant, rfl, ?_⟩
  rw [find?_eq_some_iff, locate, locate_eq_ok_iff]
  exact ⟨accepts, follow_steps isLast notDots.1 notDots.2 short parentReached there⟩

theorem createDirectory_grows {workspace after : Workspace} {path : Packed}
    (created : workspace.createDirectory path = .ok after) : workspace.Grows after none [path] := by
  rcases createDirectory_eq_ok created with ⟨place, vacant, rfl, found⟩
  have keeps := FileTree.keepsNodes_insert_of_vacant vacant .directory
  have below : place ≠ [] := FileTree.ne_nil_of_vacant vacant
  refine ⟨rfl, rfl, rfl, keeps, ?_, ?_⟩
  · intro location node _ stands
    have different : location ≠ place := FileTree.ne_of_vacant vacant stands
    exact (FileTree.node?_insert _ below .directory location).trans
      ((if_neg different).trans stands)
  · intro location node _ absent stands
    have inserted : (if location = place then some FileNode.directory
        else workspace.tree.node? location) = some node :=
      (FileTree.node?_insert _ below .directory location).symm.trans stands
    split at inserted
    · rename_i here
      cases inserted
      exact ⟨rfl, path, List.mem_singleton_self path, here ▸ found⟩
    · rw [absent] at inserted
      cases inserted

theorem ensureDirectory_grows (workspace : Workspace) (path : Packed) :
    workspace.Grows (workspace.ensureDirectory path).2 none [path] := by
  unfold ensureDirectory
  split
  · rename_i created isCreated
    exact createDirectory_grows isCreated
  · exact .refl workspace [path]

/-- Creating directories one after the other touches nothing that was there. -/
theorem createDirectories_grows (workspace : Workspace) (paths : List Packed) :
    workspace.Grows (workspace.createDirectories paths).2 none paths := by
  induction paths generalizing workspace with
  | nil => exact .refl workspace []
  | cons path parents ih =>
      have above : workspace.Grows (workspace.createDirectories parents).2 none (path :: parents) :=
        (ih workspace).mono (List.subset_cons_self path parents)
      have here : ∀ ready : Workspace,
          ready.Grows (ready.ensureDirectory path).2 none (path :: parents) :=
        fun ready => (ensureDirectory_grows ready path).mono (by simp)
      rw [createDirectories]
      split
      · split
        · rename_i prepared isPrepared
          rw [isPrepared] at above
          exact above.trans (here prepared)
        · exact above
      · exact here workspace

/-! ## Files -/

theorem grows_insert_file {workspace : Workspace} {location : Location}
    (free : workspace.tree.IsFree location) (body : FileBody) (paths : List Packed) :
    workspace.Grows (workspace.insert location (.file body)) (some location) paths := by
  have unchanged : ∀ other, some location ≠ some other →
      (workspace.insert location (.file body)).tree.node? other = workspace.tree.node? other := by
    intro other elsewhere
    have different : other ≠ location := fun same => elsewhere (congrArg some same.symm)
    rw [insert, FileTree.node?_insert _ free.ne_nil, if_neg different]
  refine ⟨rfl, rfl, rfl, free.keepsNodes body, ?_, ?_⟩
  · intro other node elsewhere stands
    rw [unchanged other elsewhere, stands]
  · intro other node elsewhere absent stands
    rw [unchanged other elsewhere, absent] at stands
    cases stands

/-- The file at a location once it holds a content: the one that stands there, or a new one. -/
def fileHolding (workspace : Workspace) (location : Location) (content : ByteArray) : FileBody :=
  match workspace.tree.node? location with
  | some (.file body) => { body with content }
  | _ => { content, readRefusal := workspace.disk.newReadRefusal }

/-- The workspace with this file. -/
def holding (workspace : Workspace) (location : Location) (content : ByteArray) : Workspace :=
  workspace.insert location (.file (workspace.fileHolding location content))

theorem fileHolding_content (workspace : Workspace) (location : Location) (content : ByteArray) :
    (workspace.fileHolding location content).content = content := by
  unfold fileHolding
  split <;> rfl

/-- A file is filled to its end, or with a beginning of what was to be written. -/
theorem fillFile_eq (workspace : Workspace) (location : Location) (body : FileBody)
    (content : ByteArray) :
    workspace.fillFile location body content =
        (.ok (), workspace.insert location (.file { body with content })) ∨
      ∃ count error, count < content.size ∧ workspace.fillFile location body content =
        (.error error,
          workspace.insert location (.file { body with content := content.extract 0 count })) := by
  rcases workspace.disk.fill_eq content with filled | ⟨count, error, less, filled⟩
  · rw [fillFile, filled]
    exact .inl rfl
  · rw [fillFile, filled]
    exact .inr ⟨count, error, less, rfl⟩

/-- All that writing a file can come to. -/
inductive WritesFile (workspace : Workspace) (path : Packed) (content : ByteArray) :
    Except SystemError Unit × Workspace → Prop where
  | refused (error : SystemError) : WritesFile workspace path content (.error error, workspace)
  | written {location : Location} (free : workspace.tree.IsFree location)
      (found : (workspace.holding location content).find? path =
        some (location, .file (workspace.fileHolding location content))) :
      WritesFile workspace path content (.ok (), workspace.holding location content)
  | cut (error : SystemError) {location : Location} {count : Nat} (less : count < content.size)
      (free : workspace.tree.IsFree location)
      (found : (workspace.holding location (content.extract 0 count)).find? path =
        some (location, .file (workspace.fileHolding location (content.extract 0 count)))) :
      WritesFile workspace path content
        (.error error, workspace.holding location (content.extract 0 count))
  | sent {location : Location} {body : FileBody}
      (found : workspace.find? path = some (location, .device body)) :
      WritesFile workspace path content (.ok (), workspace)

/-- Where a file may stand, the path leads to the file that is put there. -/
theorem find?_holding {workspace : Workspace} {path : Packed} {place : Place}
    (located : workspace.locateForWriting path = .ok place)
    (free : workspace.tree.IsFree place.location) (content : ByteArray) :
    (workspace.holding place.location content).find? path =
      some (place.location, .file (workspace.fileHolding place.location content)) := by
  have stands : (workspace.holding place.location content).tree.node? place.location =
      some (.file (workspace.fileHolding place.location content)) := by
    rw [holding, insert, FileTree.node?_insert _ free.ne_nil, if_pos rfl]
  have directory : (workspace.holding place.location content).directory =
      workspace.directory := rfl
  exact find?_of_keepsNodes directory (free.keepsNodes _) located stands (by simp)

/-- What is opened where a file may stand is filled to its end or in part. -/
theorem writesFile_of_fillFile {workspace : Workspace} {path : Packed} {place : Place}
    {body : FileBody} (located : workspace.locateForWriting path = .ok place)
    (free : workspace.tree.IsFree place.location)
    (opened : ∀ held, workspace.fileHolding place.location held = { body with content := held })
    (content : ByteArray) :
    workspace.WritesFile path content (workspace.fillFile place.location body content) := by
  rcases workspace.fillFile_eq place.location body content with
    filled | ⟨count, error, less, filled⟩
  · rw [filled, ← opened]
    exact .written free (find?_holding located free content)
  · rw [filled, ← opened]
    exact .cut error less free (find?_holding located free _)

theorem writesFile (workspace : Workspace) (path : Packed) (content : ByteArray) :
    workspace.WritesFile path content (workspace.writeFile path content) := by
  unfold writeFile
  cases located : workspace.locateForWriting path with
  | error error => exact .refused error
  | ok place =>
      have followed := (locate_eq_ok_iff.mp located).2
      cases place with
      | vacant location =>
          have vacant := FileTree.node?_of_follow_vacant followed
          dsimp only
          split
          · exact .refused _
          · refine writesFile_of_fillFile located ?_ ?_ content
            · intro node stands
              rw [Place.location, vacant] at stands
              cases stands
            · intro held
              rw [fileHolding, Place.location, vacant]
      | found location node =>
          have stands := FileTree.node?_of_follow followed
          cases node with
          | directory => exact .refused _
          | link target => exact .refused _
          | device body =>
              have keeps := FileTree.keepsNodes_of_forall
                fun location node (here : workspace.tree.node? location = some node) => here
              dsimp only
              split
              · exact .refused _
              · exact .sent (find?_of_keepsNodes rfl keeps located stands (by simp))
          | file body =>
              dsimp only
              split
              · exact .refused _
              · refine writesFile_of_fillFile located ?_ ?_ content
                · intro node other
                  exact ⟨body, (Option.some.inj (stands.symm.trans other)).symm⟩
                · intro held
                  rw [fileHolding, Place.location, stands]

end Workspace

end BraceBalance
