import Mathlib
import BraceBalance.Proofs.FileTree.Depth
import BraceBalance.Proofs.Settings.InitialFile
import BraceBalance.Proofs.Settings.Writing

/-!
# New settings files

The built-in settings are loaded from a new settings file if it can be read, and also by a run,
whatever the file holds that all projects share. From a device, which keeps nothing of what is
written to it, nothing is loaded.

Two more things stand in the way. A shared file with `Tree.markKey` below its top is no layer. And
a relative path is searched for by its spelling from the root: where that is too long for the
system, the file of a directory above may be found in place of the new one, or none.
-/

namespace BraceBalance

namespace Workspace

theorem HasNoSettings.of_grows {before after : Workspace} (noSettings : before.HasNoSettings)
    {written? : Option Location} {paths : List Packed}
    (grows : before.Grows after written? paths) : after.HasNoSettings := by
  rw [HasNoSettings, grows.environment]
  exact noSettings

/-- The path leads to a regular file that the user may read. -/
def IsReadable (workspace : Workspace) (path : Packed) : Prop :=
  ∃ body, workspace.file? path = some body ∧ body.readRefusal = none

theorem IsReadable.isFile {workspace : Workspace} {path : Packed}
    (readable : workspace.IsReadable path) : workspace.isFile path := by
  rcases readable with ⟨body, holds, -⟩
  exact Option.isSome_iff_exists.mpr ⟨body, holds⟩

theorem IsReadable.fileContent?_eq {workspace : Workspace} {path : Packed} {content : ByteArray}
    (readable : workspace.IsReadable path)
    (holds : ∀ body, workspace.file? path = some body → body.content = content) :
    workspace.fileContent? path = some content := by
  rcases readable with ⟨body, isFile, allowed⟩
  rw [fileContent?_eq_some_iff, readBytes_of_file? isFile, FileBody.read, allowed,
    holds body isFile]

/-- A settings file that cannot be read is no layer. -/
theorem exists_fileLayer_eq_error {workspace : Workspace} {path : Packed} {body : FileBody}
    {error : SystemError} (reaches : workspace.ReachesFromRoot path)
    (holds : workspace.file? path = some body) (refused : body.readRefusal = some error) :
    ∃ fault, workspace.fileLayer path = .error fault := by
  have isFile : workspace.isFile path := Option.isSome_iff_exists.mpr ⟨body, holds⟩
  rcases exists_findSettingsFile? reaches isFile with ⟨file, isFound, same⟩
  have unread : workspace.readText file = .error (.system error) := by
    rw [readText, same, readBytes_of_file? holds, FileBody.read, refused]
    rfl
  exact ⟨_, by rw [fileLayer, isFound]; simp only [unread]; rfl⟩

/-- From a regular file with the initial content the built-in settings are loaded exactly if it
can be read. -/
theorem loadFile_eq_default_iff {workspace : Workspace} {path : Packed}
    (reaches : workspace.ReachesFromRoot path)
    (holds : ∀ body, workspace.file? path = some body →
      body.content = Text.toBytes Settings.initialFile) :
    Settings.loadFile workspace path = .ok Settings.default ↔ workspace.IsReadable path := by
  constructor
  · intro loaded
    cases isFile : workspace.file? path with
    | none =>
        have missing : workspace.isFile path = false := by
          rw [Workspace.isFile, isFile]
          rfl
        rw [Settings.loadFile] at loaded
        simp only [missing] at loaded
        cases loaded
    | some body =>
        refine ⟨body, isFile, ?_⟩
        cases refused : body.readRefusal with
        | none => rfl
        | some error =>
            rcases exists_fileLayer_eq_error reaches isFile refused with ⟨fault, noLayer⟩
            have noLayers : workspace.fileLayers [path] = .error (.unreadableLayers [fault]) := by
              rw [fileLayers, List.map_singleton, noLayer]
              rfl
            rw [Settings.loadFile_eq_bind (Option.isSome_iff_exists.mpr ⟨body, isFile⟩),
              noLayers] at loaded
            cases loaded
  · intro readable
    exact Settings.loadFile_eq_default reaches readable.isFile (readable.fileContent?_eq holds)

/-- A settings file that exists is kept unless it is to be replaced. A new one is the only file
that changes, unless the path leads to a device, which keeps nothing, and the built-in settings
are loaded exactly from a new file that can be read. If writing fails, nothing that stood has
changed but the file itself, which may hold a beginning of what was to be written. Once something
stands at the path it is kept, and a run in a project with a new file has the built-in settings,
whatever the shared file holds. -/
theorem writeSettingsFile_writes_default (workspace : Workspace) (path : Packed) (force : Bool) :
    (workspace.pathExists path = true → force = false →
      workspace.writeSettingsFile path force = (.ok false, workspace)) ∧
    (∀ after, workspace.writeSettingsFile path force = (.ok true, after) →
      workspace.LeavesWritten path after ∧
      (workspace.ReachesFromRoot path →
        (Settings.loadFile after path = .ok Settings.default ↔ after.IsReadable path))) ∧
    (∀ fault after, workspace.writeSettingsFile path force = (.error fault, after) →
      workspace.LeavesUnwritten path after) ∧
    (∀ created after, workspace.writeSettingsFile path force = (.ok created, after) →
      after.writeSettingsFile path false = (.ok false, after)) ∧
    (∀ named after, workspace.initSettings false force = (.ok (named, true), after) →
      after.IsReadable projectFileName → workspace.ReachesFromRoot projectFileName →
      workspace.HasNoSettings → after.SharedFileIsUsable →
      Settings.load after = .ok Settings.default) := by
  have keeps : ∀ place : Workspace, place.pathExists path = true →
      place.writeSettingsFile path false = (.ok false, place) := by
    intro place stands
    rw [writeSettingsFile, stands]
    rfl
  refine ⟨?_, ?_, ?_, ?_, ?_⟩
  · rintro stands rfl
    exact keeps workspace stands
  · intro after isWritten
    have leaves := leavesWritten_of_written isWritten
    refine ⟨leaves, fun reaches => ?_⟩
    rcases leaves.exists_grows with ⟨written?, grows⟩
    exact loadFile_eq_default_iff (reaches.of_grows grows) fun body => leaves.content_eq
  · intro fault after isFailed
    have outcome := workspace.writesSettings path force
    rw [isFailed] at outcome
    cases outcome with
    | failed fault leaves => exact leaves
  · intro created after isDone
    have outcome := workspace.writesSettings path force
    rw [isDone] at outcome
    cases outcome with
    | kept stands => exact keeps workspace (Bool.and_eq_true_iff.mp stands).1
    | written leaves => exact keeps after leaves.pathExists
  · intro named after isDone readable reaches noSettings usable
    have leaves := leavesWritten_of_written (writeSettingsFile_of_initSettings isDone)
    rcases leaves.exists_grows with ⟨written?, grows⟩
    exact Settings.load_eq_default (reaches.of_grows grows) readable.isFile
      (readable.fileContent?_eq fun body => leaves.content_eq) (noSettings.of_grows grows) usable

/-! ## A project next to a shared file -/

/-- A working directory with a file in it, and elsewhere a shared file with the given text. -/
def withShared (shared : Text) : Workspace where
  tree := ⟨[(["home"], .directory), (["home", "bracecheck"], .directory),
    (["home", "bracecheck", "config.toml"], .plain shared.toBytes), (["work"], .directory),
    (["work", "note"], .plain (Text.toBytes []))]⟩
  directory := ["work"]
  environment := [("XDG_CONFIG_HOME", "/home")]

/-- The workspace with a new settings file in the working directory. -/
def withProject (shared : Text) : Workspace :=
  (withShared shared).insert ["work", projectFileName] (.plain (Text.toBytes Settings.initialFile))

theorem hasDirectory_withShared (shared : Text) : (withShared shared).HasDirectory where
  areNames := by
    intro name nameMem
    rw [List.mem_singleton.mp nameMem]
    decide
  directories := by
    intro above isAbove
    rcases above with _ | ⟨name, below⟩
    · rfl
    · rcases List.cons_prefix_cons.mp isAbove with ⟨rfl, isBelow⟩
      rw [List.prefix_nil.mp isBelow]
      rfl

theorem hasNoSettings_withShared (shared : Text) : (withShared shared).HasNoSettings := by
  intro binding bindingMem
  rw [List.mem_singleton.mp bindingMem]
  decide

theorem reaches_projectFileName (shared : Text) :
    (withShared shared).ReachesFromRoot projectFileName := by
  refine .inr ⟨hasDirectory_withShared shared, ?_⟩
  change List.length (Path.append (Path.ofLocation ["work"]) projectFileName) < _
  decide

theorem writeSettingsFile_withShared (shared : Text) :
    (withShared shared).writeSettingsFile projectFileName false =
      (.ok true, withProject shared) := by
  have free : (withShared shared).pathExists projectFileName = false := by cbv
  have located : (withShared shared).locateForWriting projectFileName =
      .ok (.vacant ["work", projectFileName]) := by cbv
  exact writeSettingsFile_of_written (by rw [free]; rfl) rfl
    (writeFile_of_vacant located rfl _)

theorem initSettings_withShared (shared : Text) :
    (withShared shared).initSettings false false =
      (.ok (projectFileName, true), withProject shared) := by
  change (((withShared shared).writeSettingsFile projectFileName false).1.map fun created =>
    (projectFileName, created), ((withShared shared).writeSettingsFile projectFileName false).2) = _
  rw [writeSettingsFile_withShared]
  rfl

theorem globalFile?_withProject (shared : Text) :
    (withProject shared).globalFile? = some Settings.sharedPath := by
  have same : (withProject shared).globalFile? = (withShared shared).globalFile? := rfl
  rw [same]
  cbv

/-- The shared file is the same when the project has a file. -/
theorem file?_withProject (shared : Text) :
    (withProject shared).file? Settings.sharedPath = some { content := shared.toBytes } := by
  have whatever : ∀ node : FileNode, ((withShared shared).insert ["work", projectFileName]
      node).file? Settings.sharedPath = some { content := shared.toBytes } := by
    intro node
    cbv
  exact whatever _

theorem isFile_withProject (shared : Text) : (withProject shared).isFile Settings.sharedPath :=
  Option.isSome_iff_exists.mpr ⟨_, file?_withProject shared⟩

theorem fileContent?_withProject (shared : Text) :
    (withProject shared).fileContent? Settings.sharedPath = some shared.toBytes := by
  rw [fileContent?_eq_some_iff, readBytes_of_file? (file?_withProject shared)]
  rfl

theorem findSettingsFile?_withProject (shared : Text) :
    (withProject shared).findSettingsFile? Settings.sharedPath = some Settings.sharedPath := by
  have absolute : Path.isAbsolute Settings.sharedPath := rfl
  rw [findSettingsFile?, if_pos absolute, if_pos (isFile_withProject shared)]

theorem isReadable_withProject (shared : Text) :
    (withProject shared).IsReadable projectFileName := by
  have whatever : ∀ body : FileBody, ((withShared shared).insert ["work", projectFileName]
      (.file body)).file? projectFileName = some body := by
    intro body
    cbv
  exact ⟨_, whatever _, rfl⟩

theorem sharedFileIsUsable_withProject {shared : Text} {members : List (Text × Toml.Value)}
    (isToml : Toml.parse? shared = some members)
    (unmarked : ∀ member ∈ members, member.2.IsUnmarked) :
    (withProject shared).SharedFileIsUsable := by
  intro path file isGlobal _ isFound
  rw [globalFile?_withProject] at isGlobal
  cases isGlobal
  rw [findSettingsFile?_withProject] at isFound
  cases isFound
  exact ⟨shared, members, fileContent?_withProject shared, isToml, unmarked⟩

theorem sharedMembers_unmarked : ∀ member ∈ Settings.sharedMembers, member.2.IsUnmarked := by
  simp only [Settings.sharedMembers, List.forall_mem_cons]
  refine ⟨.integer 3, .table (by decide) ?_, .table (by decide) ?_, by simp⟩
  · simp only [List.forall_mem_cons]
    refine ⟨.array ?_, .integer 0, by simp⟩
    simp only [List.forall_mem_cons]
    exact ⟨.string _, .string _, by simp⟩
  · simp only [List.forall_mem_cons]
    exact ⟨.boolean false, by simp⟩

/-- The workspace with a new settings file in a new directory. -/
def withNested : Workspace :=
  ((withShared []).insert ["work", "nested"] .directory).insert ["work", "nested", "config.toml"]
    (.plain (Text.toBytes Settings.initialFile))

theorem writeSettingsFile_nested :
    (withShared []).writeSettingsFile "nested/config.toml" false = (.ok true, withNested) := by
  have free : (withShared []).pathExists "nested/config.toml" = false := by cbv
  have prepared : (withShared []).createDirectoryAndParents "nested" =
      (.ok (), (withShared []).insert ["work", "nested"] .directory) := by cbv
  have located : ((withShared []).insert ["work", "nested"] .directory).locateForWriting
      "nested/config.toml" = .ok (.vacant ["work", "nested", "config.toml"]) := by cbv
  exact writeSettingsFile_of_written (by rw [free]; rfl) prepared
    (writeFile_of_vacant located rfl _)

theorem isReadable_nested : withNested.IsReadable "nested/config.toml" := by
  have whatever : ∀ body : FileBody, (((withShared []).insert ["work", "nested"]
      .directory).insert ["work", "nested", "config.toml"] (.file body)).file?
        "nested/config.toml" = some body := by
    intro body
    cbv
  exact ⟨_, whatever _, rfl⟩

/-- A file that stands is kept, a new one is written below a new directory and read back, none is
written below a file, and over a shared file with other settings a new file is loaded. -/
theorem writeSettingsFile_writes_default_withShared :
    ((withShared []).pathExists "note" = true ∧
      (withShared []).writeSettingsFile "note" false = (.ok false, withShared [])) ∧
    ((withShared []).writeSettingsFile "nested/config.toml" false = (.ok true, withNested) ∧
      (withShared []).LeavesWritten "nested/config.toml" withNested ∧
      (withShared []).ReachesFromRoot "nested/config.toml" ∧
      withNested.IsReadable "nested/config.toml" ∧
      Settings.loadFile withNested "nested/config.toml" = .ok Settings.default ∧
      withNested.writeSettingsFile "nested/config.toml" false = (.ok false, withNested)) ∧
    (∃ fault, (withShared []).writeSettingsFile "note/config.toml" false =
        (.error fault, withShared []) ∧
      (withShared []).LeavesUnwritten "note/config.toml" (withShared [])) ∧
    (withShared Settings.sharedText).initSettings false false =
        (.ok (projectFileName, true), withProject Settings.sharedText) ∧
      (withProject Settings.sharedText).IsReadable projectFileName ∧
      (withShared Settings.sharedText).ReachesFromRoot projectFileName ∧
      (withShared Settings.sharedText).HasNoSettings ∧
      (withProject Settings.sharedText).SharedFileIsUsable ∧
      Settings.load (withProject Settings.sharedText) = .ok Settings.default := by
  have stands : (withShared []).pathExists "note" = true := by cbv
  have written := writeSettingsFile_nested
  have reaches : (withShared []).ReachesFromRoot "nested/config.toml" := by
    refine .inr ⟨hasDirectory_withShared [], ?_⟩
    change List.length (Path.append (Path.ofLocation ["work"]) "nested/config.toml") < _
    decide
  have refused : (withShared []).writeSettingsFile "note/config.toml" false =
      (.error (.file "note" (.system .alreadyExists)), withShared []) := by cbv
  have project := initSettings_withShared Settings.sharedText
  have readable := isReadable_withProject Settings.sharedText
  have noSettings := hasNoSettings_withShared Settings.sharedText
  have isToml : Toml.parse? Settings.sharedText = some Settings.sharedMembers := by cbv
  have usable := sharedFileIsUsable_withProject isToml sharedMembers_unmarked
  rcases writeSettingsFile_writes_default (withShared []) "nested/config.toml" false with
    ⟨-, isWritten, -, again, -⟩
  refine ⟨⟨stands, ?_⟩, ⟨written, (isWritten _ written).1, reaches, isReadable_nested, ?_, ?_⟩,
    ⟨_, refused, ?_⟩, project, readable, reaches_projectFileName _, noSettings, usable, ?_⟩
  · exact (writeSettingsFile_writes_default _ "note" false).1 stands rfl
  · exact ((isWritten _ written).2 reaches).mpr isReadable_nested
  · exact again _ _ written
  · exact (writeSettingsFile_writes_default _ _ false).2.2.1 _ _ refused
  · exact (writeSettingsFile_writes_default _ projectFileName false).2.2.2.2 _ _ project readable
      (reaches_projectFileName _) noSettings usable

/-! ## What stands in the way -/

/-- With a shared file that is no layer nothing is loaded. -/
theorem load_withProject_of_no_layer {shared : Text} {members : List (Text × Toml.Value)}
    (isToml : Toml.parse? shared = some members)
    (noLayer : ∀ origin, Layer.ofToml? origin members = none) :
    Settings.load (withProject shared) = .error (.unreadableLayers [.notToml]) := by
  have leaves := leavesWritten_of_written (writeSettingsFile_withShared shared)
  rcases leaves.exists_grows with ⟨written?, grows⟩
  have readable := isReadable_withProject shared
  have sharedLayer : (withProject shared).fileLayer Settings.sharedPath = .error .notToml := by
    rw [fileLayer_of_isFound (findSettingsFile?_withProject shared)
      (fileContent?_withProject shared), isToml, Option.bind_some, noLayer, Option.elim_none]
  have sharedStands := pathExists_of_isFile (isFile_withProject shared)
  have files : (withProject shared).settingsFiles =
      [Settings.sharedPath, projectFileName] := by
    rw [settingsFiles, globalFile?_withProject, Option.toList_some, List.singleton_append,
      List.filter_cons_of_pos sharedStands, List.filter_cons_of_pos leaves.pathExists,
      List.filter_nil]
  rcases exists_fileLayer_eq_default ((reaches_projectFileName shared).of_grows grows)
    readable.isFile (readable.fileContent?_eq fun body => leaves.content_eq) with
    ⟨origin, projectLayer⟩
  have read : (withProject shared).fileLayers [Settings.sharedPath, projectFileName] =
      .error (.unreadableLayers [.notToml]) := by
    rw [fileLayers, List.map_cons, List.map_cons, List.map_nil, sharedLayer, projectLayer]
    rfl
  rw [Settings.load, ((hasNoSettings_withShared shared).of_grows grows).ofVariables?_eq, files]
  simp only [read]
  rfl

/-- A settings file with another version. -/
def otherVersion : Text := "version = \"2\"\n"

/-- A device, a file that may be written and not be read, and one that may be both. -/
def unusual : Workspace where
  tree := ⟨[(["null"], .device { content := .empty }),
    (["secret"], .file { content := .empty, readRefusal := some .permissionDenied }),
    (["notes"], .plain otherVersion.toBytes)]⟩
  directory := []
  environment := []

theorem createDirectoryAndParents_unusual :
    unusual.createDirectoryAndParents "/" = (.ok (), unusual) := by
  cbv

/-- From a device nothing is loaded. -/
theorem loadFile_device :
    unusual.writeSettingsFile "/null" true = (.ok true, unusual) ∧
      Settings.loadFile unusual "/null" = .error (.file "/null" .missingSettingsFile) := by
  have located : unusual.locateForWriting "/null" =
      .ok (.found ["null"] (.device { content := .empty })) := by cbv
  have written : unusual.writeFile "/null" (Text.toBytes Settings.initialFile) =
      (.ok (), unusual) := by
    rw [writeFile, located]
  have noFile : unusual.isFile "/null" = false := by cbv
  refine ⟨writeSettingsFile_of_written (by simp) createDirectoryAndParents_unusual written, ?_⟩
  rw [Settings.loadFile, noFile]
  rfl

/-- The file that may not be read, with a content. -/
def secret (content : ByteArray) : FileBody :=
  { content, readRefusal := some .permissionDenied }

theorem file?_secret (content : ByteArray) :
    (unusual.insert ["secret"] (.file (secret content))).file? "/secret" =
      some (secret content) := by
  have whatever : ∀ body : FileBody,
      (unusual.insert ["secret"] (.file body)).file? "/secret" = some body := by
    intro body
    cbv
  exact whatever _

/-- From a file that may not be read nothing is loaded. -/
theorem loadFile_secret :
    ∃ after, unusual.writeSettingsFile "/secret" true = (.ok true, after) ∧
      Settings.loadFile after "/secret" ≠ .ok Settings.default := by
  have located : unusual.locateForWriting "/secret" =
      .ok (.found ["secret"] (.file (secret .empty))) := by cbv
  have written : unusual.writeFile "/secret" (Text.toBytes Settings.initialFile) =
      (.ok (), unusual.insert ["secret"] (.file (secret (Text.toBytes Settings.initialFile)))) := by
    rw [writeFile, located]
    simp only [secret, fillFile, Disk.fill, unusual]
  refine ⟨_, writeSettingsFile_of_written (by simp) createDirectoryAndParents_unusual written,
    fun loaded => ?_⟩
  rcases exists_fileLayer_eq_error (.inl rfl) (file?_secret _) rfl with ⟨fault, noLayer⟩
  rw [Settings.loadFile_eq_bind (Option.isSome_iff_exists.mpr ⟨_, file?_secret _⟩), fileLayers,
    List.map_singleton, noLayer] at loaded
  cases loaded

/-- The same on a disk that takes no more. -/
def full : Workspace :=
  { unusual with disk := { limit := some (0, .noSpace) } }

theorem size_initialFile_pos : 0 < (Text.toBytes Settings.initialFile).size := by
  have signMem : '#' ∈ Settings.initialFile := by
    rw [Settings.initialFile_eq, Settings.initialRemarks, List.flatMap_cons]
    exact List.mem_append_left _ (List.mem_append_left _ List.mem_cons_self)
  exact Nat.lt_of_lt_of_le (List.length_pos_of_mem signMem) (Text.length_le_size_toBytes _)

/-- A settings file is lost when it cannot be replaced. -/
theorem fileContent?_full :
    full.fileContent? "/notes" = some otherVersion.toBytes ∧
      ∃ fault after, full.writeSettingsFile "/notes" true = (.error fault, after) ∧
        after.fileContent? "/notes" = some .empty := by
  have located : full.locateForWriting "/notes" =
      .ok (.found ["notes"] (.file { content := otherVersion.toBytes })) := by cbv
  have prepared : full.createDirectoryAndParents "/" = (.ok (), full) := by cbv
  have cut : ∀ content : ByteArray, 0 < content.size → full.writeFile "/notes" content =
      (.error .noSpace, full.insert ["notes"] (.file { content := content.extract 0 0 })) := by
    intro content tooLong
    rw [writeFile, located]
    simp only [fillFile, Disk.fill, full, if_neg (Nat.not_le.mpr tooLong)]
  have left : ∀ body : FileBody,
      (full.insert ["notes"] (.file body)).file? "/notes" = some body := by
    intro body
    cbv
  refine ⟨by cbv, _, _,
    writeSettingsFile_of_cut (by simp) prepared (cut _ size_initialFile_pos), ?_⟩
  have empty : (Text.toBytes Settings.initialFile).extract 0 0 = .empty :=
    ByteArray.extract_eq_empty_iff.mpr (by simp)
  rw [fileContent?_eq_some_iff, readBytes_of_file? (left _), empty]
  rfl

/-- A run need not load the built-in settings from a new file: the shared file may be TOML and yet
no layer. What goes to a device is not loaded, nor is a file that may not be read. And a file that
stood is lost if the new one does not fit on the disk. -/
theorem exists_written_without_default :
    (∃ shared members after, Toml.parse? shared = some members ∧
      (withShared shared).HasNoSettings ∧
      (withShared shared).initSettings false false = (.ok (projectFileName, true), after) ∧
      after.IsReadable projectFileName ∧
      after.fileContent? Settings.sharedPath = some (Text.toBytes shared) ∧
      Settings.load after ≠ .ok Settings.default) ∧
    (∃ after, unusual.writeSettingsFile "/null" true = (.ok true, after) ∧
      Settings.loadFile after "/null" ≠ .ok Settings.default) ∧
    (∃ after, unusual.writeSettingsFile "/secret" true = (.ok true, after) ∧
      Settings.loadFile after "/secret" ≠ .ok Settings.default) ∧
    ∃ fault after, full.writeSettingsFile "/notes" true = (.error fault, after) ∧
      full.fileContent? "/notes" = some otherVersion.toBytes ∧
      after.fileContent? "/notes" ≠ some otherVersion.toBytes := by
  have isToml : Toml.parse? Settings.markText = some Settings.markMembers := by cbv
  rcases loadFile_device with ⟨sent, notLoaded⟩
  rcases fileContent?_full with ⟨stood, fault, after, failed, left⟩
  refine ⟨⟨Settings.markText, Settings.markMembers, _, isToml, hasNoSettings_withShared _,
    initSettings_withShared _, isReadable_withProject _, fileContent?_withProject _, ?_⟩,
    ⟨_, sent, ?_⟩, loadFile_secret, fault, after, failed, stood, ?_⟩
  · rw [load_withProject_of_no_layer isToml fun _ => rfl]
    simp
  · rw [notLoaded]
    simp
  · rw [left]
    intro same
    have sizes := congrArg ByteArray.size (Option.some.inj same)
    revert sizes
    decide

/-! ## A deep working directory -/

/-- A name as long as the system takes it. -/
def longName : Packed := List.replicate FileTree.maxNameLength 97

theorem length_longName : longName.length = FileTree.maxNameLength :=
  List.length_replicate

theorem isName_longName : Path.IsName longName where
  notEmpty same := by
    have lengths := length_longName.symm.trans (congrArg List.length same)
    cases lengths
  notDot same := by
    have lengths := length_longName.symm.trans (congrArg List.length same)
    cases lengths
  notDots same := by
    have lengths := length_longName.symm.trans (congrArg List.length same)
    cases lengths
  noSlash slashMem := by
    cases List.eq_of_mem_replicate slashMem
  noZero zeroMem := by
    cases List.eq_of_mem_replicate zeroMem
  short := length_longName.le

theorem projectFileName_ne_longName : projectFileName ≠ longName := by
  intro same
  have lengths := length_longName.symm.trans (congrArg List.length same.symm)
  cases lengths

def otherMembers : List (Text × Toml.Value) :=
  [("version", .string "2")]

def otherLayer (origin : Origin) : Layer :=
  [("version", .scalar origin (.text "2"))]

def otherSettings : Settings :=
  { Settings.default with version := "2" }

/-- A working directory whose path from the root is almost as long as the system takes it, and
in the directory above a settings file. -/
def deep : Workspace where
  tree := (FileTree.chain longName 16).insert (List.replicate 15 longName ++ [projectFileName])
    (.plain otherVersion.toBytes)
  directory := List.replicate 16 longName
  environment := []

/-- The workspace with a new settings file in the working directory. -/
def deepWithProject : Workspace :=
  deep.insert (List.replicate 16 longName ++ [projectFileName])
    (.plain (Text.toBytes Settings.initialFile))

theorem node?_deepWithProject_directory {above : Nat} (within : above ≤ 16) :
    deepWithProject.tree.node? (List.replicate above longName) = some .directory := by
  have other : ∀ depth, List.replicate above longName ≠
      List.replicate depth longName ++ [projectFileName] := fun depth =>
    (FileTree.ne_replicate_of_mem projectFileName_ne_longName (by simp) above).symm
  rw [deepWithProject, insert, FileTree.node?_insert _ (by simp), if_neg (other 16), deep,
    FileTree.node?_insert _ (by simp), if_neg (other 15), FileTree.node?_chain _ within]

theorem node?_deep_directory {above : Nat} (within : above ≤ 16) :
    deep.tree.node? (List.replicate above longName) = some .directory := by
  have other : List.replicate above longName ≠ List.replicate 15 longName ++ [projectFileName] :=
    (FileTree.ne_replicate_of_mem projectFileName_ne_longName (by simp) above).symm
  rw [deep, FileTree.node?_insert _ (by simp), if_neg other, FileTree.node?_chain _ within]

theorem fileName_ne {left right : Nat} (different : left ≠ right) :
    List.replicate left longName ++ [projectFileName] ≠
      List.replicate right longName ++ [projectFileName] := by
  intro same
  have lengths := congrArg List.length same
  simp only [List.length_append, List.length_replicate, List.length_singleton] at lengths
  omega

theorem writeSettingsFile_deep :
    deep.writeSettingsFile projectFileName false = (.ok true, deepWithProject) := by
  have absent : deep.tree.node? (List.replicate 16 longName ++ [projectFileName]) = none := by
    rw [deep, FileTree.node?_insert _ (by simp), if_neg (fileName_ne (by decide))]
    exact FileTree.node?_chain_of_ne
      (FileTree.ne_replicate_of_mem projectFileName_ne_longName (by simp)) 16
  have followed : ∀ creating, deep.tree.locate creating deep.directory projectFileName =
      .ok (.vacant (List.replicate 16 longName ++ [projectFileName])) := by
    intro creating
    rw [locate_projectFileName]
    exact FileTree.follow_vacant isName_projectFileName (node?_deep_directory (Nat.le_refl 16))
      absent creating _
  have free : deep.pathExists projectFileName = false := by
    rw [pathExists, find?, FileTree.find?, followed]
    rfl
  exact writeSettingsFile_of_written (by rw [free]; rfl) rfl
    (writeFile_of_vacant (followed true) rfl _)

/-- The workspace with a working directory that is one less deep. -/
def aboveDeep : Workspace :=
  { deepWithProject with directory := List.replicate 15 longName }

theorem length_spelled (depth : Nat) :
    (Path.append (Path.ofLocation (List.replicate depth longName)) projectFileName).length =
      depth * (FileTree.maxNameLength + 1) + 17 := by
  have areNames : ∀ name ∈ List.replicate depth longName, Path.IsName name := by
    intro name nameMem
    rw [List.eq_of_mem_replicate nameMem]
    exact isName_longName
  have relative : Path.isAbsolute projectFileName = false := rfl
  rw [Path.append_ofLocation areNames relative, List.length_append, Path.length_spell_replicate,
    length_longName]
  rfl

theorem hasDirectory_aboveDeep : aboveDeep.HasDirectory where
  areNames := by
    intro name nameMem
    rw [List.eq_of_mem_replicate nameMem]
    exact isName_longName
  directories := by
    intro above isAbove
    have isChain : above = List.replicate (min above.length 15) longName := by
      rw [← List.take_replicate]
      exact List.prefix_iff_eq_take.mp isAbove
    rw [isChain]
    exact node?_deepWithProject_directory (by omega)

theorem isFile_deepWithProject : deepWithProject.isFile projectFileName := by
  have there : deepWithProject.tree.node? (List.replicate 16 longName ++ [projectFileName]) =
      some (.plain (Text.toBytes Settings.initialFile)) := by
    rw [deepWithProject, insert, FileTree.node?_insert _ (by simp), if_pos rfl]
  exact Option.isSome_iff_exists.mpr
    ⟨_, file?_projectFileName (node?_deepWithProject_directory (by decide : 16 ≤ 16)) there⟩

theorem file?_aboveDeep :
    aboveDeep.file? projectFileName = some { content := otherVersion.toBytes } := by
  have there : aboveDeep.tree.node? (List.replicate 15 longName ++ [projectFileName]) =
      some (.plain otherVersion.toBytes) := by
    rw [aboveDeep, deepWithProject, insert, FileTree.node?_insert _ (by simp),
      if_neg (fileName_ne (by decide)), deep, FileTree.node?_insert _ (by simp), if_pos rfl]
  exact file?_projectFileName (node?_deepWithProject_directory (by decide : 15 ≤ 16)) there

/-- The new file is not the one that is loaded. -/
theorem loadFile_deepWithProject :
    Settings.loadFile deepWithProject projectFileName =
      .ok otherSettings := by
  have reaches : aboveDeep.ReachesFromRoot projectFileName := by
    refine .inr ⟨hasDirectory_aboveDeep, ?_⟩
    rw [absolutePath, aboveDeep, length_spelled]
    decide
  have isFile : aboveDeep.isFile projectFileName :=
    Option.isSome_iff_exists.mpr ⟨_, file?_aboveDeep⟩
  rcases exists_findSettingsFile? reaches isFile with ⟨file, isFound, same⟩
  have long : FileTree.maxPathLength ≤
      (Path.append (Path.ofLocation deepWithProject.directory) projectFileName).length := by
    have spelled := length_spelled 16
    rw [deepWithProject, insert, deep, spelled]
    decide
  have search : deepWithProject.findSettingsFile? projectFileName = some file := by
    have step : { deepWithProject with directory := deepWithProject.directory.dropLast } =
        aboveDeep := by
      have shorter : deepWithProject.directory.dropLast = List.replicate 15 longName :=
        List.dropLast_replicate
      rw [shorter, aboveDeep]
    rw [findSettingsFile?_of_long rfl (by simp [deepWithProject, insert, deep]) long, step, isFound]
  have contentThere : deepWithProject.fileContent? file = some otherVersion.toBytes := by
    have absolute := isAbsolute_of_findSettingsFile? isFound
    have moved : aboveDeep.readBytes file = deepWithProject.readBytes file :=
      readBytes_of_isAbsolute absolute _
    rw [fileContent?_eq_some_iff, ← moved]
    exact same.trans (readBytes_of_file? file?_aboveDeep)
  have isToml : Toml.parse? otherVersion = some otherMembers := by cbv
  have ofToml : ∀ origin, Layer.ofToml? origin otherMembers = some (otherLayer origin) :=
    fun _ => rfl
  have isLayer : ∃ origin, deepWithProject.fileLayer projectFileName = .ok (otherLayer origin) := by
    refine ⟨.file (Path.shownFrom deepWithProject.directory file), ?_⟩
    rw [fileLayer_of_isFound search contentThere, isToml, Option.bind_some, ofToml,
      Option.elim_some]
  rcases isLayer with ⟨origin, isLayer⟩
  have decoded : Settings.decode (Layer.stack [otherLayer origin]) = .ok otherSettings := rfl
  have valid : otherSettings.validate = .ok () := by cbv
  rw [Settings.loadFile_eq_bind isFile_deepWithProject,
    fileLayers_eq_ok (.cons isLayer .nil)]
  exact (Settings.ofLayers_of_decode decoded).trans (by rw [valid])

/-- Behind a working directory that lies too deep, a file that stands above it is loaded in place of
the new one. -/
theorem exists_other_loaded_from_deep :
    ∃ after, deep.writeSettingsFile projectFileName false = (.ok true, after) ∧
      Settings.loadFile after projectFileName = .ok otherSettings :=
  ⟨_, writeSettingsFile_deep, loadFile_deepWithProject⟩

end Workspace

end BraceBalance
