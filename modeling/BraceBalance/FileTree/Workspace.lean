import BraceBalance.FileTree.Basic

/-!
# Workspaces

A workspace is all that a run sees of its surroundings: a file tree, the directory in it
from which relative paths start, the variables of the environment, and the disk that takes
what is written. What a run changes is a new workspace.

A file is written in two steps. It is opened, which leaves nothing of what it held, and then
it is filled, which may fail before its end.
-/

namespace BraceBalance

/-- What the system does with what a run writes. -/
structure Disk where
  /-- How many bytes a file takes, and why it takes no more, if there is such a limit. -/
  limit : Option (Nat × SystemError) := none
  /-- Why nothing can be created at a location, if nothing can. -/
  createRefusal : Location → Option SystemError := fun _ => none
  /-- Why a file that a run has created cannot be read, if it cannot. -/
  newReadRefusal : Option SystemError := none

/-- What a file holds after it is filled, and why the rest is missing, if a rest is. -/
def Disk.fill (disk : Disk) (content : ByteArray) : ByteArray × Option SystemError :=
  match disk.limit with
  | none => (content, none)
  | some (count, error) =>
      if content.size ≤ count then (content, none) else (content.extract 0 count, some error)

/-- The surroundings of a run. -/
structure Workspace where
  tree : FileTree
  /-- Where relative paths start. -/
  directory : Location
  /-- The variables of the environment, each once. -/
  environment : List (Text × Text)
  disk : Disk := {}

namespace Workspace

def environmentValue? (workspace : Workspace) (name : Text) : Option Text :=
  workspace.environment.lookup name

def takesVariable (name value : Text) : Bool :=
  name ≠ [] && !name.contains '=' && !name.contains '\x00' && !value.contains '\x00'

/-- The workspace with a variable set to a value, or removed. -/
def setVariable (workspace : Workspace) (name : Text) (value : Option Text) : Workspace :=
  let others := workspace.environment.filter (·.1 ≠ name)
  match value with
  | some value =>
      if workspace.environment.any (·.1 = name) then
        { workspace with
          environment := workspace.environment.map fun binding =>
            if binding.1 = name then (name, value) else binding }
      else { workspace with environment := others ++ [(name, value)] }
  | none => { workspace with environment := others }

/-- The path that a variable names. -/
def environmentPath? (workspace : Workspace) (name : Text) : Option Packed :=
  (workspace.environmentValue? name).map Packed.ofText

/-- Where a path leads. -/
def locate (workspace : Workspace) (path : Packed) : Except SystemError Place :=
  workspace.tree.locate false workspace.directory path

/-- Where a path leads along which a file may be created. -/
def locateForWriting (workspace : Workspace) (path : Packed) : Except SystemError Place :=
  workspace.tree.locate true workspace.directory path

def find? (workspace : Workspace) (path : Packed) : Option (Location × FileNode) :=
  workspace.tree.find? workspace.directory path

def pathExists (workspace : Workspace) (path : Packed) : Bool :=
  (workspace.find? path).isSome

def isDirectory (workspace : Workspace) (path : Packed) : Bool :=
  match workspace.find? path with
  | some (_, .directory) => true
  | _ => false

/-- The regular file that a path leads to. -/
def file? (workspace : Workspace) (path : Packed) : Option FileBody :=
  match workspace.find? path with
  | some (_, .file body) => some body
  | _ => none

def isFile (workspace : Workspace) (path : Packed) : Bool :=
  (workspace.file? path).isSome

/-- Reads the bytes that a path leads to. -/
def readBytes (workspace : Workspace) (path : Packed) : Except SystemError ByteArray := do
  match ← workspace.locate path with
  | .found _ node => node.read
  | .vacant _ => throw .notFound

/-- The bytes that a path leads to, if they can be read. -/
def fileContent? (workspace : Workspace) (path : Packed) : Option ByteArray :=
  (workspace.readBytes path).toOption

def readText (workspace : Workspace) (path : Packed) : Except FileError Text := do
  let bytes ← (workspace.readBytes path).mapError .system
  match Text.ofBytes? bytes with
  | some text => return text
  | none => throw .notText

/-- The directory in which a path creates its last name. -/
def directoryOf (workspace : Workspace) (path : Packed) (names : List Packed) :
    Except SystemError Location := do
  if path.contains 0 then throw .zeroInPath
  if path.isEmpty then throw .notFound
  if path.length ≥ FileTree.maxPathLength then throw .nameTooLong
  match ← workspace.tree.follow false FileTree.maxLinks
      (if Path.isAbsolute path then [] else workspace.directory) names with
  | .found location .directory => return location
  | .found _ _ => throw .notADirectory
  | .vacant _ => throw .notFound

def insert (workspace : Workspace) (location : Location) (node : FileNode) : Workspace :=
  { workspace with tree := workspace.tree.insert location node }

/-- Fills a file that has been opened at a location. -/
def fillFile (workspace : Workspace) (location : Location) (body : FileBody)
    (content : ByteArray) : Except SystemError Unit × Workspace :=
  let (held, refusal) := workspace.disk.fill content
  (match refusal with
    | none => .ok ()
    | some error => .error error,
    workspace.insert location (.file { body with content := held }))

/-- Opens a file, which is created if there is none, and fills it. -/
def writeFile (workspace : Workspace) (path : Packed) (content : ByteArray) :
    Except SystemError Unit × Workspace :=
  match workspace.locateForWriting path with
  | .error error => (.error error, workspace)
  | .ok (.found location (.file body)) =>
      match body.writeRefusal with
      | some error => (.error error, workspace)
      | none => workspace.fillFile location body content
  | .ok (.found _ (.device body)) =>
      match body.writeRefusal with
      | some error => (.error error, workspace)
      | none => (.ok (), workspace)
  | .ok (.found _ _) => (.error .isADirectory, workspace)
  | .ok (.vacant location) =>
      match workspace.disk.createRefusal location with
      | some error => (.error error, workspace)
      | none =>
          workspace.fillFile location
            { content := .empty, readRefusal := workspace.disk.newReadRefusal } content

/-- Creates one directory, in a directory that exists. A link stands in the way even if
it leads nowhere. -/
def createDirectory (workspace : Workspace) (path : Packed) : Except SystemError Workspace := do
  let names := (Path.steps path).filter (· ≠ [])
  let parent ← workspace.directoryOf path names.dropLast
  match names.getLast? with
  | none => throw .alreadyExists
  | some name =>
      if name = "." || name = ".." then throw .alreadyExists
      if name.length > FileTree.maxNameLength then throw .nameTooLong
      match workspace.tree.node? (parent ++ [name]) with
      | some _ => throw .alreadyExists
      | none =>
          match workspace.disk.createRefusal (parent ++ [name]) with
          | some error => throw error
          | none => return workspace.insert (parent ++ [name]) .directory

/-- Creates a directory where none is, and says whether one is there now. -/
def ensureDirectory (workspace : Workspace) (path : Packed) :
    Except SystemError Unit × Workspace :=
  match workspace.createDirectory path with
  | .ok created => (.ok (), created)
  | .error error =>
      (if workspace.isDirectory path then .ok () else .error error, workspace)

/-- Creates the first of some paths as a directory, after creating the next if that is
missing, and so on. Directories created before a failure stay. -/
def createDirectories (workspace : Workspace) :
    List Packed → Except SystemError Unit × Workspace
  | [] => (.ok (), workspace)
  | path :: parents =>
      match workspace.createDirectory path with
      | .error .notFound =>
          match workspace.createDirectories parents with
          | (.ok (), prepared) => prepared.ensureDirectory path
          | failed => failed
      | _ => workspace.ensureDirectory path

/-- Creates a directory and those above it that are missing. -/
def createDirectoryAndParents (workspace : Workspace) (path : Packed) :
    Except SystemError Unit × Workspace :=
  workspace.createDirectories (Path.selfAndParents path (path.length + 1))

end Workspace

end BraceBalance
