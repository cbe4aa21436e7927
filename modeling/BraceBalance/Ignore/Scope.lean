import BraceBalance.Ignore.Global
import BraceBalance.Settings.Load

/-!
# Scopes of ignore files

Every directory above a path may hold ignore files, which speak of the path as it is seen
from there. `.ignore` always counts. `.gitignore`, and the excludes of a repository, count
only inside a repository, and only up to the directory that holds the repository. Of each
kind the nearest file that says something counts; between the kinds `.ignore` comes first,
then `.gitignore`, then the excludes of the repository, then the global ignore file.

How a path is seen is a matter of spelling. The directories from the walked root down are
spelled like the paths of the walk, which begin with the root as it was given. The
directories above the root are spelled from the root of the tree.
-/

namespace BraceBalance

namespace Ignore

open Packed (slash dot)

structure Scope where
  path : Packed
  /-- The rules of `.ignore`. -/
  ownRules : List Rule
  /-- The rules of `.gitignore`. -/
  repositoryRules : List Rule
  excludeRules : List Rule
  hasRepository : Bool

/-! ## Paths as they are seen -/

def dropHere (path : Packed) : Packed :=
  (Text.dropBeginning? path [dot, slash]).getD path

/-- What follows a directory in the spelling of a path that begins with it. -/
def dropDirectory (directory path : Packed) : Packed :=
  match Text.dropBeginning? path directory with
  | some rest => (Text.dropBeginning? rest [slash]).getD rest
  | none => path

/-- The path is a spelling of the working directory that begins with a dot. -/
def isHere (path : Packed) : Bool :=
  Path.components path = [.here]

/-- A path as it is seen from a directory. A single name is seen everywhere as it is, and
so is any path from the working directory. -/
def seenFrom (directory path : Packed) : Packed :=
  let directory := dropHere directory
  let path := dropHere path
  if isHere directory || !path.contains slash then path else dropDirectory directory path

/-- A path below a walked root, spelled from the root of the tree. -/
def spelledFromRoot (root : Packed) (location : Location) (path : Packed) : Packed :=
  Path.append (Path.ofLocation location)
    (if isHere root then path else dropDirectory (dropHere root) path)

/-! ## Scopes -/

def nodeFrom? (tree : FileTree) (directory : Location) (names : List Packed) : Option FileNode :=
  match tree.follow false FileTree.maxLinks directory names with
  | .ok (.found _ node) => some node
  | _ => none

/-- The rules of a file. Without the file, or if it cannot be read, there are none. -/
def rulesFrom (tree : FileTree) (directory : Location) (names : List Packed) : List Rule :=
  match (nodeFrom? tree directory names).map FileNode.read with
  | some (.ok content) => rulesOfFile content
  | _ => []

def firstLine? (content : ByteArray) : Option Text := do
  Text.ofBytes? ⟨(← (byteLines content).head?).toArray⟩

/-- The directory that is named by a file in the place of a repository. -/
def namedDirectory? (content : ByteArray) : Option Text := do
  Text.dropBeginning? (← firstLine? content) "gitdir: "

/-- The directory of a repository that is described by a file: the file names a directory,
in which another file names the one that is wanted. -/
def linkedRepository? (workspace : Workspace) (content : ByteArray) : Option Packed := do
  let directory := Packed.ofText (← namedDirectory? content)
  let common ← firstLine? (← workspace.fileContent? (Path.append directory "commondir"))
  let common := Packed.ofText common
  return if common.head? = some dot then Path.append directory common else common

def excludesOf (workspace : Workspace) (directory : Location) : List Rule :=
  match nodeFrom? workspace.tree directory [".git"] with
  | some (.file body) =>
      match (body.read.toOption.bind (linkedRepository? workspace)).bind fun repository =>
          workspace.fileContent? (Path.append repository "info/exclude") with
      | some content => rulesOfFile content
      | none => []
  | _ => rulesFrom workspace.tree directory [".git", "info", "exclude"]

/-- The scope of a directory at a location, for a path spelled like the directory. -/
def Scope.ofDirectory (workspace : Workspace) (location : Location) (directory path : Packed) :
    Scope where
  path := seenFrom directory path
  ownRules := rulesFrom workspace.tree location [".ignore"]
  repositoryRules := rulesFrom workspace.tree location [".gitignore"]
  excludeRules := excludesOf workspace location
  hasRepository := (nodeFrom? workspace.tree location [".git"]).isSome
    || (nodeFrom? workspace.tree location [".jj"]).isSome

/-- The scopes from the directory of an entry up to the walked root, the nearest first. -/
def scopesBelow (workspace : Workspace) (root : Packed) (location : Location)
    (names : List Packed) : List Scope :=
  (List.range names.length).map fun count =>
    let reached := names.take (names.length - 1 - count)
    Scope.ofDirectory workspace (location ++ reached) (Path.appendNames root reached)
      (dropHere (Path.appendNames root names))

/-- The scopes above the walked root, the nearest first. -/
def scopesAbove (workspace : Workspace) (root : Packed) (location : Location)
    (names : List Packed) : List Scope :=
  let path := spelledFromRoot root location (dropHere (Path.appendNames root names))
  (List.range location.length).map fun count =>
    let above := location.take (location.length - 1 - count)
    Scope.ofDirectory workspace above (Path.ofLocation above) path

/-- The scopes up to the first that holds a repository. None count if none does. -/
def repositoryScopes (scopes : List Scope) : List Scope :=
  match scopes with
  | [] => []
  | scope :: rest =>
      if scope.hasRepository then [scope]
      else if rest.any Scope.hasRepository then scope :: repositoryScopes rest
      else []

/-- What the nearest file of one kind that says something says. -/
def nearestVerdict? (scopes : List Scope) (rules : Scope → List Rule) (isDirectory : Bool) :
    Option Verdict :=
  scopes.findSome? fun scope => verdict? (rules scope) scope.path isDirectory

/-- What the global ignore file says of a path. It speaks of paths as they are seen from the
working directory. -/
def globalVerdict? (workspace : Workspace) (path : Packed) (isDirectory : Bool) :
    Option Verdict :=
  let seen := seenFrom (Path.ofLocation workspace.directory) (dropHere path)
  verdict? (globalRules workspace) seen isDirectory

/-- An entry is ignored that has the given names below a walked root. -/
def isIgnored (workspace : Workspace) (root : Packed) (location : Location) (names : List Packed)
    (isDirectory : Bool) : Bool :=
  let scopes :=
    scopesBelow workspace root location names ++ scopesAbove workspace root location names
  let repository := repositoryScopes scopes
  let verdict :=
    nearestVerdict? scopes Scope.ownRules isDirectory
      <|> nearestVerdict? repository Scope.repositoryRules isDirectory
      <|> nearestVerdict? repository Scope.excludeRules isDirectory
      <|> if repository.isEmpty then none
        else globalVerdict? workspace (Path.appendNames root names) isDirectory
  verdict = some .ignored

end Ignore

end BraceBalance
