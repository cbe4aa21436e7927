import BraceBalance.Ignore.Scope

/-!
# Scanning for files

The paths of a run are files or directories. A file is always taken. Of a directory those
files below it are taken that no ignore rule and no exclude pattern hides, that have one of
the wanted extensions, and that are not too large. Links below a directory are not followed
to directories, but a link to a file is taken like the file.

The files come in the order of their paths, and of paths that are equal the first spelling
is kept.
-/

namespace BraceBalance

structure ScanFilter where
  extensions : List Text
  exclude : List Glob.Pattern
  maxFileSize : Nat

def ScanSettings.filter (scan : ScanSettings) : Except SettingsFault ScanFilter := do
  return { extensions := scan.extensions, exclude := ← scan.excludePatterns
           maxFileSize := scan.maxFileSize }

namespace ScanFilter

open Packed (slash)

/-- The file with these names below the walked directory, and of this size, is wanted. -/
def accepts (filter : ScanFilter) (names : List Packed) (size : Nat) : Bool :=
  let path := Packed.shown (Text.join [slash] names)
  !filter.exclude.any (·.isMatch path)
    && (match ((names.getLast?).bind Path.extension?).bind Packed.text? with
      | some extension => filter.extensions.contains extension
      | none => false)
    && size ≤ filter.maxFileSize

end ScanFilter

namespace Scan

/-- Puts a path into a list in the order of paths, unless an equal path is there. -/
def insertPath (path : Packed) : List Packed → List Packed
  | [] => [path]
  | other :: rest =>
      match Path.compare path other with
      | .lt => path :: other :: rest
      | .eq => other :: rest
      | .gt => other :: insertPath path rest

/-- No directory on the way to an entry is ignored, nor the entry itself. -/
def isVisible (workspace : Workspace) (root : Packed) (directory : Location) (names : List Packed)
    (isDirectory : Bool) : Bool :=
  (List.range names.length).all fun index =>
    !Ignore.isIgnored workspace root directory (names.take (index + 1))
      (index + 1 < names.length || isDirectory)

/-- The size of the file that a path leads to. An entry whose path is too long leads to none. -/
def fileSize? (workspace : Workspace) (path : Packed) : Option Nat :=
  (workspace.file? path).map fun body => body.content.size

/-- The wanted files below a directory, as names that lead to them. -/
def filesBelow (workspace : Workspace) (filter : ScanFilter) (root : Packed)
    (directory : Location) : List (List Packed) :=
  (workspace.tree.below directory).filterMap fun (names, node) =>
    match fileSize? workspace (Path.appendNames root names) with
    | some size =>
        if filter.accepts names size
            && isVisible workspace root directory names node.isDirectory then some names
        else none
    | none => none

/-- The path of a single hyphen stands for no directory. -/
def isHyphen (path : Packed) : Bool :=
  Path.components path = [.name "-"]

def pathsOfRoot (workspace : Workspace) (filter : ScanFilter) (root : Packed) :
    Except Fault (List Packed) :=
  match workspace.find? root with
  | some (directory, .directory) =>
      if isHyphen root then .ok []
      else .ok ((filesBelow workspace filter root directory).map (Path.appendNames root))
  | some (_, .file _) => .ok [root]
  | _ => .error (.file root .missingRoot)

/-- The files of a run in the order of their paths. -/
def collect (workspace : Workspace) (filter : ScanFilter) (roots : List Packed) :
    Except Fault (List Packed) := do
  let paths ← roots.mapM (pathsOfRoot workspace filter)
  return paths.flatten.foldl (fun files path => insertPath path files) []

end Scan

end BraceBalance
